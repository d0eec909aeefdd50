/-!
Binary64 numbers by exact integer arithmetic.

A non-negative value is held as its rank: zero is 0, the least positive value 1, and so on up to
infinity. The order of values is the order of ranks, an even rank is an even significand, and
rounding to nearest is choosing the nearest rank, so one function `nearestRank` serves every
operation.
-/

namespace HealthRelay

/-- `num / den` to the nearest whole number; a tie goes to the even neighbour. -/
def divNearest (num den : Nat) : Nat :=
  let q := num / den
  let r := num % den
  if 2 * r < den ∨ (2 * r = den ∧ q % 2 = 0) then q else q + 1

/-- The rank of infinity: one above the largest finite value. -/
def infinityRank : Nat := 0x7ff0000000000000

/-- A non-negative binary64 value, by its rank among all of them. -/
structure Magnitude where
  rank : Nat
  rank_le : rank ≤ infinityRank
  deriving DecidableEq

/-- The units `2 ^ -1074` in one. -/
def unitsPerOne : Nat := Nat.pow 2 1074

/-- The ranks from one power of two to the next. -/
def binade : Nat := 0x10000000000000

/-- The rank nearest to `num / den`, both counted in units of `2 ^ -1074`, as if there were no
largest finite value. Below `2 ^ 53` units ranks lie one unit apart, above it `2 ^ s` units. -/
def nearestRank (num den : Nat) : Nat :=
  let s := (num / den).log2 - 52
  s * binade + divNearest num (den * Nat.pow 2 s)

/-- The value of a rank in units of `2 ^ -1074`; infinity counts as the power of two that it
rounds from. -/
def unitsOfRank (r : Nat) : Nat :=
  let s := r / binade - 1
  (r - s * binade) * Nat.pow 2 s

namespace Magnitude

def zero : Magnitude := ⟨0, Nat.zero_le _⟩

def infinity : Magnitude := ⟨infinityRank, Nat.le_refl _⟩

/-- The value in units of `2 ^ -1074`. -/
def units (a : Magnitude) : Nat := unitsOfRank a.rank

/-- The value nearest to `num / den` units. -/
def ofUnits (num den : Nat) : Magnitude :=
  ⟨min (nearestRank num den) infinityRank, Nat.min_le_right _ _⟩

/-- The value nearest to `num / den`. -/
def nearest (num den : Nat) : Magnitude :=
  ofUnits (num * unitsPerOne) den

def ofNat (n : Nat) : Magnitude := nearest n 1

def one : Magnitude := ofNat 1

def isInfinite (a : Magnitude) : Bool := a.rank == infinityRank

/-- The rounded sum. -/
def add (a b : Magnitude) : Magnitude :=
  if a.isInfinite || b.isInfinite then infinity else ofUnits (a.units + b.units) 1

/-- The rounded product. Infinity times zero is no number and is the caller's to exclude. -/
def mul (a b : Magnitude) : Magnitude :=
  if a.isInfinite || b.isInfinite then infinity else ofUnits (a.units * b.units) unitsPerOne

/-- The rounded quotient by a positive finite value. -/
def div (a b : Magnitude) : Magnitude :=
  if a.isInfinite then infinity else ofUnits (a.units * unitsPerOne) b.units

instance : Add Magnitude := ⟨add⟩
instance : Mul Magnitude := ⟨mul⟩
instance : Div Magnitude := ⟨div⟩

instance : LE Magnitude := ⟨fun a b => a.rank ≤ b.rank⟩

instance (a b : Magnitude) : Decidable (a ≤ b) := Nat.decLe a.rank b.rank

end Magnitude

/-- A binary64 number: a sign and a magnitude, or no number. -/
inductive Binary64 where
  | nan
  | signed (negative : Bool) (magnitude : Magnitude)
  deriving DecidableEq

namespace Binary64

def zero : Binary64 := .signed false .zero

def one : Binary64 := .signed false .one

def ofNat (n : Nat) : Binary64 := .signed false (.ofNat n)

/-- Zero of either sign. -/
def isZero : Binary64 → Bool
  | .nan => false
  | .signed _ a => a.rank == 0

def isFinite : Binary64 → Bool
  | .nan => false
  | .signed _ a => !a.isInfinite

/-- At least one; no number is not. -/
def atLeastOne : Binary64 → Bool
  | .signed false a => Magnitude.one ≤ a
  | _ => false

/-- The rounded product; zero times infinity is no number. -/
def mul : Binary64 → Binary64 → Binary64
  | .signed s a, .signed t b =>
    if (a.isInfinite && b.rank == 0) || (b.isInfinite && a.rank == 0) then .nan
    else .signed (s != t) (a * b)
  | _, _ => .nan

instance : Mul Binary64 := ⟨mul⟩

/-- Square and multiply over the `k` lowest binary digits of an exponent, each product rounded. -/
def powDigits (r a : Binary64) : Nat → Nat → Binary64
  | 0, _ => r
  | k + 1, n => powDigits (if n % 2 = 1 then r * a else r) (a * a) k (n / 2)

/-- The power with a whole exponent. -/
def pow (a : Binary64) (n : Nat) : Binary64 := powDigits one a (n.log2 + 1) n

/-- The sign in the interchange form. -/
def signBit : Nat := 0x8000000000000000

/-- The 64-bit interchange form; the sign is the top bit and the rank the rest. -/
def toBits : Binary64 → Nat
  | .nan => 0x7ff8000000000000
  | .signed s a => (if s then signBit else 0) + a.rank

/-- The number with the given interchange form. -/
def ofBits (bits : Nat) : Binary64 :=
  let rank := bits % signBit
  if h : rank ≤ infinityRank then .signed (decide (signBit ≤ bits % UInt64.size)) ⟨rank, h⟩
  else .nan

end Binary64

end HealthRelay
