import HealthRelay.Binary64
import HealthRelay.Text.Digits

/-!
Spans of time in whole nanoseconds, as settings and schedules use them.
-/

namespace HealthRelay

/-- A span of time: fewer than `2 ^ 64` seconds, to the nanosecond. -/
structure Duration where
  nanos : Nat
  nanos_lt : nanos < UInt64.size * 1000000000
  deriving DecidableEq

namespace Duration

def zero : Duration := ⟨0, by decide⟩

instance : Inhabited Duration := ⟨zero⟩

/-- A span of `n` nanoseconds, if it is short enough. -/
def ofNanos? (n : Nat) : Option Duration :=
  if h : n < UInt64.size * 1000000000 then some ⟨n, h⟩ else none

theorem ofNanos?_eq_some_iff {n : Nat} {d : Duration} : ofNanos? n = some d ↔ d.nanos = n := by
  rw [ofNanos?]
  split
  · next hlt => exact ⟨fun h => by cases h; rfl, fun h => by subst h; rfl⟩
  · next hlt => exact ⟨nofun, fun h => absurd (h ▸ d.nanos_lt) hlt⟩

theorem ofNanos?_nanos (d : Duration) : ofNanos? d.nanos = some d := ofNanos?_eq_some_iff.2 rfl

/-- A span of whole seconds. -/
def ofSeconds (n : UInt64) : Duration :=
  ⟨n.toNat * 1000000000, Nat.mul_lt_mul_of_pos_right n.toNat_lt_size (by decide)⟩

instance : LE Duration := ⟨fun a b => a.nanos ≤ b.nanos⟩

instance : LT Duration := ⟨fun a b => a.nanos < b.nanos⟩

instance (a b : Duration) : Decidable (a ≤ b) := Nat.decLe a.nanos b.nanos

instance (a b : Duration) : Decidable (a < b) := Nat.decLt a.nanos b.nanos

instance : Min Duration := ⟨fun a b => if a ≤ b then a else b⟩

def isZero (d : Duration) : Bool := d.nanos == 0

/-- The whole seconds. -/
def seconds (d : Duration) : Nat := d.nanos / 1000000000

/-- The nanoseconds beyond the whole seconds. -/
def subsecond (d : Duration) : Nat := d.nanos % 1000000000

/-- The whole milliseconds. -/
def millis (d : Duration) : Nat := d.nanos / 1000000

/-- The sum, if it is short enough. -/
def add? (a b : Duration) : Option Duration := ofNanos? (a.nanos + b.nanos)

/-- Seconds as a binary64 number: the whole seconds and the rest are rounded apart, then added. -/
def toSeconds (d : Duration) : Magnitude :=
  .ofNat d.seconds + .ofNat d.subsecond / .ofNat 1000000000

/-- The span of so many seconds to the nearest nanosecond, a tie going to the even one. There is
none from `2 ^ 64` seconds on. -/
def ofMagnitude? (a : Magnitude) : Option Duration :=
  if a.units < UInt64.size * unitsPerOne then
    ofNanos? (divNearest (a.units * 1000000000) unitsPerOne)
  else none

/-- The span of so many seconds; there is none for a negative number, nor for no number. -/
def ofBinary64? : Binary64 → Option Duration
  | .nan => none
  | .signed negative a => if negative && a.rank != 0 then none else ofMagnitude? a

/-- The text settings are written with: whole seconds, else whole milliseconds, else
nanoseconds. -/
def text (d : Duration) : String :=
  if d.subsecond = 0 then toString d.seconds ++ "s"
  else if d.subsecond % 1000000 = 0 then toString d.millis ++ "ms"
  else toString d.nanos ++ "ns"

/-- `rest / 10 ^ places` after a point, without trailing zeros. -/
def fraction (rest places : Nat) : String :=
  match ((Text.padded places rest).reverse.dropWhile (· == '0')).reverse with
  | [] => ""
  | kept => String.ofList ('.' :: kept)

/-- The text messages show: the largest of seconds, milliseconds, microseconds and nanoseconds
that leaves a whole part, with an exact fraction. -/
def inspect (d : Duration) : String :=
  if 1000000000 ≤ d.nanos then toString d.seconds ++ fraction d.subsecond 9 ++ "s"
  else if 1000000 ≤ d.nanos then
    toString (d.nanos / 1000000) ++ fraction (d.nanos % 1000000) 6 ++ "ms"
  else if 1000 ≤ d.nanos then toString (d.nanos / 1000) ++ fraction (d.nanos % 1000) 3 ++ "µs"
  else toString d.nanos ++ "ns"

end Duration

end HealthRelay
