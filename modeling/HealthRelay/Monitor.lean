import HealthRelay.Poller
import HealthRelay.Settings.File

/-!
A monitor: a relay with two loops between a start and a stop, one that polls the plugin and one that
looks after the connection.

Starting and stopping are made of steps, so that one may overlap the other. The loops make progress
by ticks, and by waking from the delay of an attempt to connect again.
-/

namespace HealthRelay

/-- How many reports wait for the host at most. -/
def streamCapacity : Nat := 1000

/-- How long a plugin may take to answer that it is told to stop. -/
def stopTimeout : Duration := .ofSeconds 5

/-- What a loop is at. Times are in nanoseconds of the clock. -/
inductive Loop where
  /-- It has not begun, or it has ended. -/
  | off
  /-- It waits for its next tick. -/
  | idle (next : Nat)
  /-- It waits out the delay of an attempt to connect again. -/
  | asleep (wake next : Nat)
  deriving DecidableEq

/-- What a loop is at after a tick that may have begun an attempt. -/
def Loop.afterTick (now : Nat) (interval : Duration) : Option Duration → Loop
  | none => .idle (now + interval.nanos)
  | some delay => .asleep (now + delay.nanos) (now + interval.nanos)

structure Monitor where
  poller : Poller
  started : Bool
  stopped : Bool
  /-- The loop that polls the plugin. -/
  polling : Loop
  /-- The loop that looks after the connection. -/
  probing : Loop

namespace Monitor

/-- A monitor that has not been started. -/
def new (settings : Settings) (link : Link) : Except RelayError Monitor :=
  match settings.check with
  | .error e => .error (.settings e)
  | .ok _ => .ok {
      poller := .new (.new settings link) (.ofCapacity streamCapacity)
      started := false
      stopped := false
      polling := .off
      probing := .off }

/-- A monitor with the settings in a file. -/
def load (link : Link) (path : String) : Except RelayError Monitor :=
  match Settings.load link.files path with
  | .error e => .error (.settings e)
  | .ok settings => new settings link

def relay (m : Monitor) : Relay := m.poller.relay

def settings (m : Monitor) : Settings := m.relay.settings

/-- The host's end. -/
def stream (m : Monitor) : Stream := m.poller.outbox

def updateRelay (f : Relay → Relay) (m : Monitor) : Monitor :=
  { m with poller := { m.poller with relay := f m.poller.relay } }

/-- Puts back the stream after the host has used it. -/
def withStream (stream : Stream) (m : Monitor) : Monitor :=
  { m with poller := { m.poller with outbox := stream } }

/-! Starting. -/

/-- The first step of a start, which only one start can take. -/
def claimStart (m : Monitor) : Except RelayError Monitor :=
  if m.started then .error (.alreadyStarted m.relay.name)
  else .ok ({ m with started := true }.updateRelay
    (.remark .info "Starting external monitor" [("endpoint", m.relay.endpoint)]))

/-- The second step of a start: connects, or leaves that to the loops. -/
def connect (m : Monitor) : Monitor :=
  m.updateRelay fun r =>
    match r.connect with
    | (.ok _, r) => r
    | (.error e, r) =>
      r.remark .warn "Initial connection failed, retrying in background" [("error", e.message)]

/-- The last step of a start: the loops begin. When the monitor is being stopped they end at once,
and the report before the first is all that is sent. -/
def spawn (now : Nat) (stamp : Timestamp) (m : Monitor) : Monitor :=
  let poller := m.poller.greet stamp
  if m.relay.stopping then { m with poller := { poller with outbox := poller.outbox.closeSender } }
  else
    { m with
      poller := poller
      polling := .afterTick now m.settings.pollInterval none
      probing := .afterTick now m.settings.probeInterval none }

/-- Starts the monitor. A plugin that cannot be reached yet is no error. -/
def start (now : Nat) (stamp : Timestamp) (m : Monitor) : Except RelayError Monitor :=
  m.claimStart.map fun m => m.connect.spawn now stamp

/-! Stopping. -/

/-- The first step of a stop, which only one stop can take, and none before the start. -/
def claimStop? (m : Monitor) : Option Monitor :=
  if !m.started || m.stopped then none
  else some ({ m with stopped := true }.updateRelay (.remark .info "Stopping external monitor" []))

/-- The second step of a stop: the plugin is told, if it can be reached. -/
def notify (m : Monitor) : Monitor :=
  m.updateRelay fun r =>
    match r.liveSession? with
    | none => r
    | some session =>
      let (answer, link) := r.link.stop session
      let r := { r with link := link }
      match answer with
      | .ok _ => r
      | .error e => r.remark .debug "Stop notification failed" [("error", e.message)]

/-- The third step of a stop: the loops are told to end. -/
def signal (m : Monitor) : Monitor := m.updateRelay fun r => { r with stopping := true }

/-- A loop that has begun comes to its end, and with it an attempt that it made. -/
def endLoop (m : Monitor) (loop : Loop) : Monitor :=
  match loop with
  | .asleep _ _ => m.updateRelay fun r => r.finishAttempt.2
  | .off | .idle _ => m

/-- The polling loop has come to its end, and nothing more is sent. -/
def joinPolling (m : Monitor) : Monitor :=
  if m.polling = .off then m
  else
    let m := m.endLoop m.polling
    { m.withStream m.stream.closeSender with polling := .off }

/-- The probing loop has come to its end. -/
def joinProbing (m : Monitor) : Monitor := { m.endLoop m.probing with probing := .off }

/-- The fourth step of a stop: the loops that have begun come to their end. -/
def join (m : Monitor) : Monitor := m.joinPolling.joinProbing

/-- The last step of a stop. -/
def disconnect (m : Monitor) : Monitor :=
  m.updateRelay fun r => r.closeSession.remark .info "External monitor stopped" []

/-- Stops the monitor; it has no effect before the start nor after the first stop. -/
def stop (m : Monitor) : Monitor :=
  match m.claimStop? with
  | none => m
  | some m => m.notify.signal.join.disconnect

/-! Progress of the loops. -/

/-- The polling loop ticks. -/
def tickPolling (now : Nat) (stamp : Timestamp) (m : Monitor) : Monitor :=
  let (_, delay, poller) := m.poller.beginPoll now stamp
  { m with poller := poller, polling := .afterTick now m.settings.pollInterval delay }

/-- The polling loop wakes and finishes its attempt. A tick that fell into the delay comes now. -/
def wakePolling (now : Nat) (m : Monitor) : Monitor :=
  match m.polling with
  | .asleep _ next =>
    { m.updateRelay fun r => r.finishAttempt.2 with polling := .idle (max now next) }
  | .off | .idle _ => m

/-- Looks after the connection up to the delay of the attempt that it may begin. -/
def probe (now : Nat) (r : Relay) : Option Duration × Relay :=
  if r.isConnected then (none, r)
  else
    match r.beginAttempt now with
    | (.refused _, r) => (none, r)
    | (.waiting delay, r) => (some delay, r)

/-- The probing loop ticks. -/
def tickProbing (now : Nat) (m : Monitor) : Monitor :=
  let (delay, relay) := probe now m.relay
  { m.updateRelay fun _ => relay with
    probing := .afterTick now m.settings.probeInterval delay }

/-- The probing loop wakes and finishes its attempt. A tick that fell into the delay comes now. -/
def wakeProbing (now : Nat) (m : Monitor) : Monitor :=
  match m.probing with
  | .asleep _ next =>
    { m.updateRelay fun r => r.finishAttempt.2 with probing := .idle (max now next) }
  | .off | .idle _ => m

/-! What a monitor shows of itself. -/

/-- A time of the clock for a reader. -/
def inspectTime : Option Nat → String
  | none => "None"
  | some time =>
    "Some(Instant \x7b tv_sec: " ++ toString (time / 1000000000) ++ ", tv_nsec: " ++
      toString (time % 1000000000) ++ " \x7d)"

/-- The state of a monitor for a reader. -/
def inspect (m : Monitor) : String :=
  let c := m.relay.connection
  let truth (b : Bool) := if b then "true" else "false"
  "MonitorProxy \x7b name: " ++ Text.quoted m.relay.name ++
    ", state: ConnectionState \x7b connected: " ++ truth c.connected ++
    ", last_attempt: " ++ inspectTime c.lastAttempt ++
    ", backoff_attempt: " ++ toString c.attempts ++
    ", consecutive_errors: " ++ toString c.errors ++ " \x7d, started: " ++ truth m.started ++
    ", stopped: " ++ truth m.stopped ++ ", .. \x7d"

end Monitor

end HealthRelay
