import HealthRelay.Channel
import HealthRelay.FileTree
import HealthRelay.Plugin

/-!
The way to a plugin: the sessions opened with it so far, and the calls made through them.

Sessions are never taken away, so that a session is known by its place for ever.
-/

namespace HealthRelay

variable {α : Type}

/-- The names of the calls. -/
def checkHealthOperation : String := "CheckHealth"
def getMetadataOperation : String := "GetMetadata"
def stopOperation : String := "Stop"

structure Session where
  endpoint : String
  state : ChannelState
  /-- The plugin is still there to answer. -/
  attached : Bool
  deriving DecidableEq

structure Link where
  transport : Transport
  /-- In process, whether new sessions can be had. -/
  reachable : Bool
  files : FileTree
  /-- The sessions opened so far, the first one first. -/
  sessions : List Session
  plugin : Plugin

namespace Link

/-- A link on which no session has been opened yet. -/
def new (transport : Transport) (files : FileTree) (plugin : Plugin) : Link where
  transport := transport
  reachable := true
  files := files
  sessions := []
  plugin := plugin

/-- A plugin listens at the path. -/
def isListening (l : Link) (path : String) : Bool :=
  match l.files.lookup path with
  | .ok (.socket listening) => listening
  | _ => false

/-- Why no session can be opened. -/
def obstacle? (l : Link) (endpoint : String) : Option ConnectError :=
  match l.transport with
  | .inProcess =>
    if l.reachable then none else some (.unreachable endpoint "in-memory plugin is unreachable")
  | .socket =>
    match l.files.lookup endpoint with
    | .error _ => some (.endpointMissing endpoint)
    | .ok _ =>
      if l.isListening endpoint then none else some (.unreachable endpoint "transport error")

/-- Opens a session and gives its place. -/
def dial (l : Link) (endpoint : String) : Except ConnectError (Nat × Link) :=
  match l.obstacle? endpoint with
  | some e => .error e
  | none => .ok (l.sessions.length, { l with sessions := l.sessions ++ [⟨endpoint, .idle, true⟩] })

def state? (l : Link) (id : Nat) : Option ChannelState := l.sessions[id]?.map Session.state

def isLive (l : Link) (id : Nat) : Bool := (l.state? id).any ChannelState.isLive

def updateSession (l : Link) (id : Nat) (f : Session → Session) : Link :=
  { l with sessions := l.sessions.modify id f }

/-- Closes a session. -/
def close (l : Link) (id : Nat) : Link := l.updateSession id fun s => { s with state := .closed }

/-- What comes back for a call that has started. -/
def exchange (l : Link) (s : Session) (ask : Plugin → Except Refusal α × Plugin) :
    Except Refusal α × Plugin :=
  if s.attached || l.isListening s.endpoint then
    let (answer, plugin) := ask l.plugin
    (l.transport.deliver answer, plugin)
  else (.error ⟨.unavailable, "transport error"⟩, l.plugin)

/-- Makes a call through a session. -/
def call (l : Link) (id : Nat) (operation : String) (ask : Plugin → Except Refusal α × Plugin) :
    Except CallError α × Link :=
  match l.sessions[id]? with
  | none => (.error ⟨operation, .unavailable, "session closed"⟩, l)
  | some s =>
    match s.state.refusal? l.transport with
    | some detail => (.error ⟨operation, .unavailable, detail⟩, l)
    | none =>
      let (answer, plugin) := l.exchange s ask
      (answer.mapError (.ofRefusal operation),
        { l with plugin := plugin }.updateSession id fun s =>
          { s with
            state := s.state.settle l.transport (Refusal.code? answer)
            attached := s.attached || l.isListening s.endpoint })

def checkHealth (l : Link) (id : Nat) (sequence : Int) (parameters : Table String) :
    Except CallError Plugin.Report × Link :=
  l.call id checkHealthOperation (Plugin.checkHealth sequence parameters)

def getMetadata (l : Link) (id : Nat) : Except CallError Plugin.Metadata × Link :=
  l.call id getMetadataOperation Plugin.getMetadata

def stop (l : Link) (id : Nat) : Except CallError Unit × Link :=
  l.call id stopOperation Plugin.stop

/-- How many sessions have been opened. -/
def openCount (l : Link) : Nat := l.sessions.length

/-- How many sessions have been closed. -/
def closedCount (l : Link) : Nat := l.sessions.countP fun s => s.state = .closed

/-- All sessions in process fail, as if the plugin had gone. -/
def sever (l : Link) : Link :=
  match l.transport with
  | .inProcess =>
    { l with sessions := l.sessions.map fun s => { s with state := s.state.sever } }
  | .socket => l

/-- Lets new sessions in process be had, or not. -/
def setReachable (l : Link) (reachable : Bool) : Link := { l with reachable := reachable }

/-- Changes the files around the plugin. -/
def updateFiles (l : Link) (f : FileTree → FileTree) : Link := { l with files := f l.files }

/-- The plugin listens at a path. -/
def serve (l : Link) (path : String) : Link := l.updateFiles fun t => t.put path (.socket true)

/-- The plugin goes: nothing listens any more, and sessions on a socket lose their other end. -/
def kill (l : Link) : Link :=
  { l with
    files := l.files.hangUp
    sessions :=
      match l.transport with
      | .inProcess => l.sessions
      | .socket => l.sessions.map fun s => { s with attached := false } }

end Link

end HealthRelay
