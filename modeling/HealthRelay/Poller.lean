import HealthRelay.Relay
import HealthRelay.Stream

/-!
Polling the plugin and passing on what has changed.

What counts as changed is measured against the report passed on last, not against the one before: a
report that could not be passed on is offered again.
-/

namespace HealthRelay

structure Poller where
  relay : Relay
  outbox : Stream
  /-- The report passed on last. -/
  lastSent : Option Status

/-- What came of a poll. -/
inductive PollOutcome where
  | notConnected
  | callFailed
  /-- The report said nothing new. -/
  | unchanged
  | emitted
  /-- The report could not be passed on. -/
  | dropped
  deriving DecidableEq

namespace Poller

/-- A poller that has not passed anything on. -/
def new (relay : Relay) (outbox : Stream) : Poller := ⟨relay, outbox, none⟩

/-- Counts a report that could not be passed on. -/
def discard (level : Level) (text : String) (p : Poller) : Poller :=
  let relay := p.relay.countDropped
  { p with relay := relay.remark level text [("dropped", toString relay.dropped)] }

/-- Passes on a report, or counts it as dropped. -/
def emit (status : Status) (p : Poller) : PollOutcome × Poller :=
  match p.outbox.send status with
  | (.accepted, outbox) => (.emitted, { p with outbox := outbox, lastSent := some status })
  | (.full, _) => (.dropped, p.discard .warn "Status channel full, dropping status")
  | (.gone, _) => (.dropped, p.discard .debug "Status receiver gone, dropping status")

/-- Passes on the report before the first, if any condition is declared. -/
def sendInitial (stamp : Timestamp) (p : Poller) : Poller :=
  let conditions := p.relay.settings.conditions
  if conditions.isEmpty then p
  else
    let relay := p.relay.remark .info "Sending initial status"
      [("conditions", toString conditions.length)]
    ({ p with relay := relay }.emit (.initial p.relay.name conditions stamp)).2

/-- Handles a report that has arrived. -/
def accept (stamp : Timestamp) (report : Plugin.Report) (p : Poller) : PollOutcome × Poller :=
  let p := { p with relay := p.relay.recordSuccess }
  let status := Status.ofReport stamp report
  if Status.shouldEmit p.lastSent status then p.emit status else (.unchanged, p)

/-- Polls up to the delay of the attempt to connect again that a failure may lead to. -/
def beginPoll (now : Nat) (stamp : Timestamp) (p : Poller) :
    PollOutcome × Option Duration × Poller :=
  match p.relay.liveSession? with
  | none =>
    (.notConnected, none,
      { p with relay := p.relay.remark .debug "Skipping poll, not connected" [] })
  | some session =>
    let relay := p.relay.advanceSequence
    let (answer, link) := relay.link.checkHealth session relay.sequence
      relay.settings.pluginSettings.parameters
    let p := { p with relay := { relay with link := link } }
    match answer with
    | .ok report =>
      let (outcome, p) := p.accept stamp report
      (outcome, none, p)
    | .error e =>
      let (delay, relay) := p.relay.beginFailure now e
      (.callFailed, delay, { p with relay := relay })

/-- Polls the plugin once. -/
def poll (now : Nat) (stamp : Timestamp) (p : Poller) : PollOutcome × Poller :=
  match p.beginPoll now stamp with
  | (outcome, none, p) => (outcome, p)
  | (outcome, some _, p) => (outcome, { p with relay := p.relay.finishAttempt.2 })

/-- The report before the first, unless the settings do without it. -/
def greet (stamp : Timestamp) (p : Poller) : Poller :=
  if p.relay.settings.pluginSettings.skipInitialStatus then p else p.sendInitial stamp

/-- A poll, unless the monitor is being stopped. -/
def tick (now : Nat) (stamp : Timestamp) (p : Poller) : Poller :=
  if p.relay.stopping then p else (p.poll now stamp).2

/-- A run from its beginning to its end, with a tick for each reading of the clocks. -/
def run (stamp : Timestamp) (ticks : List (Nat × Timestamp)) (p : Poller) : Poller :=
  let p := ticks.foldl (fun p t => p.tick t.1 t.2) (p.greet stamp)
  { p with outbox := p.outbox.closeSender }

end Poller

end HealthRelay
