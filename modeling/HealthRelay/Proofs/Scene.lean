import HealthRelay.Poller
import Mathlib.Logic.Relation

/-!
A relay and its poller at work: calls in any order, while the world around them changes.

An attempt to connect again is made in one go, or in three steps between which anything else may
happen. What happens is kept as a history, which restricts nothing.
-/
namespace HealthRelay

/-- What a history tells of. -/
inductive Milestone where
  /-- A session was opened on request. -/
  | connected
  /-- A session was opened by an attempt to connect again. -/
  | reconnected
  /-- An attempt to connect again went into its delay. -/
  | began (now : Nat) (delay : Duration)
  /-- An attempt was refused because all had been made. -/
  | abandoned (now : Nat)
  /-- A failed call was handled. -/
  | failed (e : CallError)
  /-- A call that succeeded was recorded. -/
  | succeeded
  /-- The queue took a report. -/
  | accepted (status : Status)
  /-- The host got a report. -/
  | received (status : Status)

namespace Relay

def connectMilestones (r : Relay) : List Milestone :=
  match r.connect.1 with
  | .ok _ => [.connected]
  | .error _ => []

def onsetMilestones (now : Nat) (r : Relay) : List Milestone :=
  match (r.beginAttempt now).1 with
  | .refused .gaveUp => [.abandoned now]
  | .refused _ => []
  | .waiting delay => [.began now delay]

def wakeMilestones (r : Relay) : List Milestone :=
  match r.wakeAttempt.1 with
  | .connected => [.reconnected]
  | _ => []

def attemptMilestones (now : Nat) (r : Relay) : List Milestone :=
  match r.beginAttempt now with
  | (.refused _, _) => r.onsetMilestones now
  | (.waiting _, woken) => r.onsetMilestones now ++ woken.wakeMilestones

/-- The history of a failed call, given that of the attempt it may lead to. -/
def failureMilestones (attempt : Relay → List Milestone) (e : CallError) (r : Relay) :
    List Milestone :=
  match r.recordFailure e with
  | (false, _) => [.failed e]
  | (true, r) => .failed e :: attempt r

/-- Sends a poll, if there is a session to send it through: the answer, and the relay after it. -/
def ask? (r : Relay) : Option (Except CallError Plugin.Report × Relay) :=
  r.liveSession?.map fun session =>
    let r := r.advanceSequence
    let (answer, link) := r.link.checkHealth session r.sequence r.settings.pluginSettings.parameters
    (answer, { r with link := link })

/-- The history of a poll up to what it passes on. -/
def askMilestones (attempt : Relay → List Milestone) (r : Relay) : List Milestone :=
  match r.ask? with
  | none => []
  | some (.ok _, _) => [.succeeded]
  | some (.error e, r) => r.failureMilestones attempt e

end Relay

/-- What a queue holds beyond what it held before, when nothing has left it since. -/
def Queue.taken {α : Type} (before after : Queue α) : List α :=
  after.items.drop before.items.length

/-- A poller at work. -/
structure Scene where
  poller : Poller
  /-- The attempts in their delay. -/
  asleep : Nat
  /-- The attempts that have been made and have yet to end. -/
  ending : Nat
  /-- The first milestone first. -/
  history : List Milestone

/-- What may be done. The calls come first, then parts of calls, then what happens around them. -/
inductive Action where
  | connect
  | attempt (now : Nat)
  | fail (now : Nat) (e : CallError)
  | succeed
  | closeSession
  | sendInitial (stamp : Timestamp)
  | poll (now : Nat) (stamp : Timestamp)
  /-- A call up to the delay of the attempt that it leads to. -/
  | beginAttempt (now : Nat)
  | beginFail (now : Nat) (e : CallError)
  | beginPoll (now : Nat) (stamp : Timestamp)
  /-- An attempt is made after its delay. -/
  | wake
  /-- An attempt that has been made ends. -/
  | finish
  | sever
  | setReachable (reachable : Bool)
  | setFiles (files : FileTree)
  /-- The monitor is to be stopped. -/
  | signal
  | tryRecv
  | recvTimeout (limit : Duration)
  | recv
  /-- The host drops its end of the queue. -/
  | leave
  /-- The poller comes to its end. -/
  | retire

namespace Scene

def relay (s : Scene) : Relay := s.poller.relay

def outbox (s : Scene) : Stream := s.poller.outbox

/-- With more history and another relay. -/
def note (milestones : List Milestone) (r : Relay) (s : Scene) : Scene :=
  { s with poller := { s.poller with relay := r }, history := s.history ++ milestones }

/-- With more history and another queue. -/
def hand (milestones : List Milestone) (q : Stream) (s : Scene) : Scene :=
  { s with poller := { s.poller with outbox := q }, history := s.history ++ milestones }

/-- With more history and another poller; what the queue has taken is history too. -/
def turn (milestones : List Milestone) (p : Poller) (s : Scene) : Scene :=
  { s with
    poller := p
    history := s.history ++ milestones ++ (s.outbox.taken p.outbox).map .accepted }

/-- With one more attempt in its delay, if a call has led to one. -/
def fallAsleep (delay : Option Duration) (s : Scene) : Scene :=
  { s with asleep := s.asleep + delay.toList.length }

def beginAttempt (now : Nat) (s : Scene) : Scene :=
  let (onset, r) := s.relay.beginAttempt now
  (s.note (s.relay.onsetMilestones now) r).fallAsleep <|
    match onset with
    | .refused _ => none
    | .waiting delay => some delay

def wake (s : Scene) : Scene :=
  { s.note s.relay.wakeMilestones s.relay.wakeAttempt.2 with
    asleep := s.asleep - 1
    ending := s.ending + 1 }

def finish (s : Scene) : Scene :=
  { s.note [] s.relay.endAttempt with ending := s.ending - 1 }

/-- The poller does something, unless it has come to its end. -/
def work (f : Scene → Scene) (s : Scene) : Scene := if s.outbox.senderOpen then f s else s

/-- Does one thing. -/
def perform (s : Scene) : Action → Scene
  | .connect => s.note s.relay.connectMilestones s.relay.connect.2
  | .attempt now => s.note (s.relay.attemptMilestones now) (s.relay.attemptReconnection now).2
  | .fail now e =>
    s.note (s.relay.failureMilestones (Relay.attemptMilestones now) e) (s.relay.handleFailure now e)
  | .succeed => s.note [.succeeded] s.relay.recordSuccess
  | .closeSession => s.note [] s.relay.closeSession
  | .sendInitial stamp => s.work fun s => s.turn [] (s.poller.sendInitial stamp)
  | .poll now stamp =>
    s.work fun s =>
      s.turn (s.relay.askMilestones (Relay.attemptMilestones now)) (s.poller.poll now stamp).2
  | .beginAttempt now => s.beginAttempt now
  | .beginFail now e =>
    let (delay, r) := s.relay.beginFailure now e
    (s.note (s.relay.failureMilestones (Relay.onsetMilestones now) e) r).fallAsleep delay
  | .beginPoll now stamp =>
    s.work fun s =>
      let (_, delay, p) := s.poller.beginPoll now stamp
      (s.turn (s.relay.askMilestones (Relay.onsetMilestones now)) p).fallAsleep delay
  | .wake => if 0 < s.asleep then s.wake else s
  | .finish => if 0 < s.ending then s.finish else s
  | .sever => s.note [] { s.relay with link := s.relay.link.sever }
  | .setReachable reachable =>
    s.note [] { s.relay with link := s.relay.link.setReachable reachable }
  | .setFiles files =>
    s.note [] { s.relay with link := s.relay.link.updateFiles fun _ => files }
  | .signal => s.note [] { s.relay with stopping := true }
  | .tryRecv =>
    match Stream.tryRecv s.outbox with
    | (.ok (some status), q) => s.hand [.received status] q
    | (_, q) => s.hand [] q
  | .recvTimeout limit =>
    match Stream.recvTimeout limit s.outbox with
    | (.ok status, q) => s.hand [.received status] q
    | (_, q) => s.hand [] q
  | .recv =>
    match Stream.recv? s.outbox with
    | some (.ok status, q) => s.hand [.received status] q
    | some (_, q) => s.hand [] q
    | none => s
  | .leave => s.hand [] s.outbox.closeReceiver
  | .retire => s.hand [] s.outbox.closeSender

/-- Does one thing after another. -/
def run (s : Scene) (actions : List Action) : Scene := actions.foldl perform s

end Scene

/-- What a monitor begins with. -/
structure Beginning where
  settings : Settings
  transport : Transport
  files : FileTree
  plugin : Plugin
  /-- How many reports wait for the host at most. -/
  capacity : Option Nat

namespace Beginning

/-- Nothing has been done: no session has been opened, no report sent. -/
def scene (b : Beginning) : Scene where
  poller := .new (.new b.settings (.new b.transport b.files b.plugin)) (.ofCapacity b.capacity)
  asleep := 0
  ending := 0
  history := []

def retry (b : Beginning) : RetryPolicy := b.settings.pluginSettings.retry

end Beginning

end HealthRelay
