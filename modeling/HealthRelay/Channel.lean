import HealthRelay.Failure

/-!
The state of one session with a plugin, as it is known at this end.

A call has two ends: it starts, unless the session refuses it, and it completes with an answer.
Anything may happen to the session in between; closing is for good.
-/

namespace HealthRelay

variable {α : Type}

/-- How a plugin is reached. -/
inductive Transport where
  | inProcess
  | socket
  deriving DecidableEq

/-- What this end knows of a session. -/
inductive ChannelState where
  /-- No call has completed yet. -/
  | idle
  /-- The last call reached the plugin. -/
  | ready
  /-- The last call did not reach the plugin. -/
  | failing
  | closed
  deriving DecidableEq

namespace ChannelState

/-- Calls are worth sending. -/
def isLive : ChannelState → Bool
  | .idle | .ready => true
  | .failing | .closed => false

/-- Why a call does not start. In process a failed session is lost; on a socket the next call may
get through again. -/
def refusal? (transport : Transport) : ChannelState → Option String
  | .closed => some "session closed"
  | .failing =>
    match transport with
    | .inProcess => some "connection severed"
    | .socket => none
  | .idle | .ready => none

/-- The state after a call has completed, with success or with a code. -/
def settle (transport : Transport) (code : Option StatusCode) : ChannelState → ChannelState
  | .closed => .closed
  | state =>
    match code with
    | none => .ready
    | some .unavailable => .failing
    | some _ =>
      match transport with
      | .inProcess => state
      | .socket => .ready

/-- The state after the plugin has gone. -/
def sever : ChannelState → ChannelState
  | .closed => .closed
  | _ => .failing

end ChannelState

/-- An answer as it arrives: on a socket, success without an answer is a failure. -/
def Transport.deliver (transport : Transport) : Except Refusal α → Except Refusal α
  | .error ⟨.ok, message⟩ =>
    match transport with
    | .inProcess => .error ⟨.ok, message⟩
    | .socket => .error ⟨.internal, "Missing response message."⟩
  | answer => answer

/-- The code that an answer carries if it is a refusal. -/
def Refusal.code? : Except Refusal α → Option StatusCode
  | .ok _ => none
  | .error r => some r.code

end HealthRelay
