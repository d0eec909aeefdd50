import HealthRelay.Backoff
import HealthRelay.Connection
import HealthRelay.Journal
import HealthRelay.Link
import HealthRelay.Settings
import HealthRelay.Triage

/-!
The relay between a host and one plugin: it holds the connection and brings it back when it is lost.

An attempt to connect again has three steps, between which others may use the relay: it begins, and
may be refused at once; it wakes after a delay and tries; and it ends.
-/

namespace HealthRelay

structure Relay where
  settings : Settings
  link : Link
  connection : Connection
  /-- The number of the last poll. -/
  sequence : Nat
  /-- The reports that could not be passed on. -/
  dropped : Nat
  /-- The monitor is being stopped. -/
  stopping : Bool
  /-- What has been remarked, the latest first. -/
  journal : List Remark

/-- How an attempt to connect again went. -/
inductive Outcome where
  /-- The last attempt was too recent. -/
  | debounced
  /-- Another attempt is under way. -/
  | inProgress
  /-- All attempts have been made. -/
  | gaveUp
  /-- The monitor was stopped during the delay. -/
  | interrupted
  | endpointMissing
  | failed
  | connected
  deriving DecidableEq

/-- How an attempt begins. -/
inductive Onset where
  | refused (outcome : Outcome)
  /-- It goes on after a delay. -/
  | waiting (delay : Duration)
  deriving DecidableEq

namespace Relay

/-- A relay that has not connected yet. -/
def new (settings : Settings) (link : Link) : Relay where
  settings := settings
  link := link
  connection := .initial
  sequence := 0
  dropped := 0
  stopping := false
  journal := []

def name (r : Relay) : String := r.settings.source

def endpoint (r : Relay) : String := r.settings.pluginSettings.socketAddress

def retry (r : Relay) : RetryPolicy := r.settings.pluginSettings.retry

/-- Remarks on the monitor. -/
def remark (level : Level) (text : String) (fields : List (String × String)) (r : Relay) : Relay :=
  { r with journal := ⟨level, text, ("monitor", r.name) :: fields⟩ :: r.journal }

/-- The session is held and takes calls. -/
def isConnected (r : Relay) : Bool :=
  r.connection.connected && r.connection.session.any r.link.isLive

/-- The session, if it takes calls. -/
def liveSession? (r : Relay) : Option Nat := if r.isConnected then r.connection.session else none

/-- Counts one more poll. -/
def advanceSequence (r : Relay) : Relay := { r with sequence := r.sequence + 1 }

/-- Counts one more report that could not be passed on. -/
def countDropped (r : Relay) : Relay := { r with dropped := r.dropped + 1 }

/-- Closes the session and lets go of it. -/
def closeSession (r : Relay) : Relay :=
  { r with
    link := r.connection.session.elim r.link r.link.close
    connection := r.connection.detach }

/-- Asks who is at the other end. That nobody says does not make the connection worse. -/
def identify (session : Nat) (r : Relay) : Relay :=
  let (answer, link) := r.link.getMetadata session
  let r := { r with link := link }
  match answer with
  | .ok metadata =>
    let identity := Identity.ofMetadata r.name r.endpoint metadata
    { r with connection := { r.connection with identity := some identity } }.remark .info
      "External monitor metadata"
      [("version", identity.version), ("api_version", identity.apiVersion)]
  | .error e =>
    match e.triage with
    | .unsupported => r.remark .debug "Plugin does not serve metadata" []
    | _ => r.remark .warn "Failed to fetch metadata" [("error", e.message)]

/-- Opens a session in place of the one held, which is closed in any case. -/
def connect (r : Relay) : Except ConnectError Unit × Relay :=
  let r := r.closeSession
  match r.link.dial r.endpoint with
  | .error e => (.error e, r)
  | .ok (session, link) =>
    let r := { r with link := link, connection := r.connection.install session }
    (.ok (),
      (r.remark .info "Connected to external monitor" [("endpoint", r.endpoint)]).identify session)

/-- Ends the run of failures. -/
def recordSuccess (r : Relay) : Relay := { r with connection := r.connection.countSuccess }

/-- Begins an attempt to connect again. -/
def beginAttempt (now : Nat) (r : Relay) : Onset × Relay :=
  let c := r.connection
  if c.reconnecting then (.refused .inProgress, r)
  else if c.isTooSoon now then (.refused .debounced, r)
  else
    let c := { c with lastAttempt := some now }
    if r.retry.isSpent c.attempts then
      let r := { r with connection := { c with gaveUp := true } }
      (.refused .gaveUp,
        if c.gaveUp then r.remark .debug "Reconnection abandoned" []
        else r.remark .error "Giving up reconnection" [("attempts", toString c.attempts)])
    else
      let delay := r.retry.delay c.attempts
      let attempts := c.attempts + 1
      (.waiting delay,
        { r with connection := { c with attempts := attempts, reconnecting := true } }.remark .info
          "Attempting reconnection"
          [("attempt", toString attempts),
            ("delay_ms", toString (min delay.millis (UInt64.size - 1)))])

/-- Goes on with an attempt after its delay. -/
def wakeAttempt (r : Relay) : Outcome × Relay :=
  if r.stopping then (.interrupted, r)
  else match r.link.files.lookup r.endpoint with
    | .error e =>
      (.endpointMissing,
        r.remark .debug "Socket not available" [("endpoint", r.endpoint), ("error", e.message)])
    | .ok _ =>
      match r.connect with
      | (.ok _, r) => (.connected, r.remark .info "Successfully reconnected" [])
      | (.error e, r) => (.failed, r.remark .warn "Reconnection failed" [("error", e.message)])

/-- Ends an attempt. -/
def endAttempt (r : Relay) : Relay :=
  { r with connection := { r.connection with reconnecting := false } }

/-- An attempt from its delay on. -/
def finishAttempt (r : Relay) : Outcome × Relay :=
  let (outcome, r) := r.wakeAttempt
  (outcome, r.endAttempt)

/-- A whole attempt with nothing between its steps. -/
def attemptReconnection (now : Nat) (r : Relay) : Outcome × Relay :=
  match r.beginAttempt now with
  | (.refused outcome, r) => (outcome, r)
  | (.waiting _, r) => r.finishAttempt

/-- Remarks on a failed call. -/
def remarkFailure (e : CallError) (r : Relay) : Relay :=
  match e.triage with
  | .transient =>
    r.remark .debug "Transient error" [("operation", e.operation), ("error", e.message)]
  | .unsupported =>
    r.remark .info "Operation not implemented by plugin" [("operation", e.operation)]
  | .other => r.remark .warn "Remote call failed" [("operation", e.operation), ("error", e.message)]

/-- Takes note of a failed call. Says whether there have been so many that the relay should connect
again. -/
def recordFailure (e : CallError) (r : Relay) : Bool × Relay :=
  let r := r.remarkFailure e
  if e.triage.counts then
    let r := { r with connection := r.connection.countError e.triage.disconnects }
    let errors := r.connection.errors
    if r.settings.errorThreshold ≤ errors then
      (true,
        r.remark .warn "Too many consecutive errors, triggering reconnection"
          [("errors", toString errors)])
    else (false, r)
  else (false, r)

/-- Handles a failed call up to the delay of the attempt it may lead to. -/
def beginFailure (now : Nat) (e : CallError) (r : Relay) : Option Duration × Relay :=
  match r.recordFailure e with
  | (false, r) => (none, r)
  | (true, r) =>
    match r.beginAttempt now with
    | (.refused _, r) => (none, r)
    | (.waiting delay, r) => (some delay, r)

/-- Handles a failed call, with an attempt to connect again if there have been too many. -/
def handleFailure (now : Nat) (e : CallError) (r : Relay) : Relay :=
  match r.beginFailure now e with
  | (none, r) => r
  | (some _, r) => r.finishAttempt.2

end Relay

end HealthRelay
