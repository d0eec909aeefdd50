import HealthRelay.Settings

/-!
How long to wait before trying to connect again, and when to stop trying.
-/

namespace HealthRelay.RetryPolicy

/-- The greatest exponent that a delay is computed with. -/
def maxExponent : Nat := 2147483647

/-- The delay of an attempt in seconds, without its bound. -/
def growth (p : RetryPolicy) (attempt : Nat) : Binary64 :=
  .signed false p.initialBackoff.toSeconds * p.multiplier.pow (min attempt maxExponent)

/-- The delay before an attempt, the first one being attempt zero: the first delay, multiplied once
for each attempt before, and never more than the bound. What is no span of time counts as more. -/
def delay (p : RetryPolicy) (attempt : Nat) : Duration :=
  match Duration.ofBinary64? (p.growth attempt) with
  | some d => min d p.maxBackoff
  | none => p.maxBackoff

/-- No further attempt is made after this many. -/
def isSpent (p : RetryPolicy) (attempts : Nat) : Bool := p.maxAttempts.toNat ≤ attempts

end HealthRelay.RetryPolicy
