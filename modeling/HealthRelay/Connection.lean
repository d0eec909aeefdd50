import HealthRelay.Plugin.Conversion

/-!
What a monitor knows of its connection: the session it uses, who is at the other end, and how the
attempts to connect have gone.
-/

namespace HealthRelay

/-- The least time between the starts of two attempts to connect again. -/
def reconnectDebounce : Duration := .ofSeconds 1

structure Connection where
  /-- The place of the session on the link. -/
  session : Option Nat
  /-- Who answered on the session opened last. -/
  identity : Option Identity
  /-- The plugin is taken to be reachable. -/
  connected : Bool
  /-- When the last attempt to connect again began, in nanoseconds of the clock. -/
  lastAttempt : Option Nat
  /-- The attempts since a session was last opened. -/
  attempts : Nat
  /-- The counted failures since a call last succeeded or a session was opened. -/
  errors : Nat
  /-- An attempt is under way. -/
  reconnecting : Bool
  /-- That no more attempts are made has been remarked. -/
  gaveUp : Bool
  deriving DecidableEq

namespace Connection

/-- No session yet. -/
def initial : Connection where
  session := none
  identity := none
  connected := false
  lastAttempt := none
  attempts := 0
  errors := 0
  reconnecting := false
  gaveUp := false

/-- Without its session. -/
def detach (c : Connection) : Connection := { c with session := none, connected := false }

/-- With a session just opened: all counts begin anew, and nobody has answered yet. -/
def install (c : Connection) (session : Nat) : Connection :=
  { c with
    session := some session
    identity := none
    connected := true
    attempts := 0
    errors := 0
    gaveUp := false }

/-- The greatest count of failures; there it stays. -/
def maxErrors : Nat := UInt32.size - 1

/-- After a counted failure. -/
def countError (c : Connection) (disconnects : Bool) : Connection :=
  { c with
    connected := c.connected && !disconnects
    errors := min (c.errors + 1) maxErrors }

/-- After a call that succeeded. -/
def countSuccess (c : Connection) : Connection := { c with errors := 0 }

/-- An attempt now would follow too closely on the last one. -/
def isTooSoon (c : Connection) (now : Nat) : Bool :=
  c.lastAttempt.any fun last => now - last < reconnectDebounce.nanos

end Connection

end HealthRelay
