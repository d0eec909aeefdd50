import HealthRelay.Monitor

/-!
A monitor in time: which of its loops moves next, and when.

A tick of the probing loop does nothing while the connection is up, nor while an attempt is under
way, nor too soon after one; of its ticks only those are followed that do something.
-/

namespace HealthRelay

/-- A monitor at a reading of the clocks. -/
structure Timeline where
  monitor : Monitor
  /-- The clock, in nanoseconds. -/
  now : Nat
  /-- The date. -/
  stamp : Timestamp

namespace Timeline

/-- A move of one of the loops. -/
inductive Move where
  | tickPolling
  | wakePolling
  | tickProbing
  | wakeProbing
  deriving DecidableEq

/-- The first tick that is not before a time. -/
def firstTick (next interval time : Nat) : Nat :=
  next + (time - next + (interval - 1)) / interval * interval

/-- When the probing loop next does something. -/
def probeTime? (t : Timeline) (next : Nat) : Option Nat :=
  let r := t.monitor.relay
  if r.isConnected || r.connection.reconnecting then none
  else
    let soonest := r.connection.lastAttempt.elim 0 (· + reconnectDebounce.nanos)
    some (firstTick next t.monitor.settings.probeInterval.nanos (max t.now soonest))

/-- The next move of the polling loop. -/
def pollingMove? (t : Timeline) : Option (Nat × Move) :=
  match t.monitor.polling with
  | .off => none
  | .idle next => some (next, .tickPolling)
  | .asleep wake _ => some (wake, .wakePolling)

/-- The next move of the probing loop. -/
def probingMove? (t : Timeline) : Option (Nat × Move) :=
  match t.monitor.probing with
  | .off => none
  | .idle next => (t.probeTime? next).map fun time => (time, .tickProbing)
  | .asleep wake _ => some (wake, .wakeProbing)

/-- The earlier of two moves. -/
def earlier? : Option (Nat × Move) → Option (Nat × Move) → Option (Nat × Move)
  | some a, some b => if b.1 < a.1 then some b else some a
  | some a, none => some a
  | none, b => b

/-- The next move, and when it is due. -/
def move? (t : Timeline) : Option (Nat × Move) := earlier? t.pollingMove? t.probingMove?

/-- Makes a move at its time. -/
def make (t : Timeline) (time : Nat) (move : Move) : Timeline :=
  let now := max t.now time
  { t with
    now := now
    monitor :=
      match move with
      | .tickPolling => t.monitor.tickPolling now t.stamp
      | .wakePolling => t.monitor.wakePolling now
      | .tickProbing => t.monitor.tickProbing now
      | .wakeProbing => t.monitor.wakeProbing now }

/-- Makes the moves due up to a deadline, at most so many, until a goal is reached. -/
def advance (goal : Monitor → Bool) (deadline : Nat) : Nat → Timeline → Bool × Timeline
  | 0, t => (goal t.monitor, { t with now := max t.now deadline })
  | moves + 1, t =>
    if goal t.monitor then (true, t)
    else
      match t.move? with
      | some (time, move) =>
        if time ≤ deadline then advance goal deadline moves (t.make time move)
        else (false, { t with now := max t.now deadline })
      | none => (false, { t with now := max t.now deadline })

/-- As many moves as can be due within a time limit: polls are at least a second apart, and so are
attempts to connect again. -/
def mostMoves (limit : Duration) : Nat := 8 * (limit.seconds + 2)

/-- Waits until a goal is reached, up to a time limit. -/
def await (goal : Monitor → Bool) (limit : Duration) (t : Timeline) : Bool × Timeline :=
  t.advance goal (t.now + limit.nanos) (mostMoves limit)

def start (t : Timeline) : Except RelayError Timeline :=
  (t.monitor.start t.now t.stamp).map fun m => { t with monitor := m }

def stop (t : Timeline) : Timeline := { t with monitor := t.monitor.stop }

/-- Takes a report, waiting for one up to a time limit. -/
def recvTimeout (limit : Duration) (t : Timeline) : Except RelayError Status × Timeline :=
  let (_, t) := t.await (fun m => m.stream.isSettled) limit
  let (answer, stream) := Stream.recvTimeout limit t.monitor.stream
  (answer, { t with monitor := t.monitor.withStream stream })

end Timeline

end HealthRelay
