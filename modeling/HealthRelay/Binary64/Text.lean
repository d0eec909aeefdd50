import HealthRelay.Binary64

/-!
Binary64 numbers as decimal text.

The digits written are those of the coarsest decimal grid with a point that reads back as the
number, and of two such points the nearer. How the digits are laid out is the `Layout` of the
place that writes them.
-/

namespace HealthRelay

/-- Digits and a power of ten: `digits * 10 ^ exponent`. -/
structure Decimal where
  digits : Nat
  exponent : Int
  deriving DecidableEq

namespace Decimal

/-- The point of the grid `10 ^ e` that reads back as `a` and is nearest to it, if the grid has
one. A point reads back when it lies between the midpoints to the neighbouring values; the
midpoints themselves go to the even rank. -/
def onGrid? (a : Magnitude) (tieUp : Bool) (e : Int) : Option Nat :=
  let step := Nat.pow 10 e.toNat * unitsPerOne
  let scale := Nat.pow 10 (-e).toNat
  let value := a.units * scale
  let low := (unitsOfRank (a.rank - 1) + a.units) * scale
  let high := (a.units + unitsOfRank (a.rank + 1)) * scale
  let readsBack (d : Nat) : Bool :=
    let twice := 2 * d * step
    if a.rank % 2 = 0 then low ≤ twice && twice ≤ high else low < twice && twice < high
  let d := value / step
  let rest := value % step
  let upNearer := step < 2 * rest || (2 * rest == step && (tieUp || d % 2 == 1))
  if readsBack d && 0 < d then
    if readsBack (d + 1) && upNearer then some (d + 1) else some d
  else if readsBack (d + 1) then some (d + 1) else none

/-- The decimal exponents of binary64 values and their last digits, coarsest first. -/
def exponents : List Int := (List.range 660).map fun (i : Nat) => 310 - (i : Int)

/-- The shortest decimal that reads back as `a`; zero is zero. -/
def shortest (a : Magnitude) (tieUp : Bool) : Decimal :=
  if a.rank = 0 then ⟨0, 0⟩
  else
    (exponents.findSome? fun e => (onGrid? a tieUp e).map fun d => ⟨d, e⟩).getD ⟨0, 0⟩

end Decimal

/-- The sign of an exponent part, as written. -/
inductive ExponentSign where
  | bare
  | plus
  | minus
  deriving DecidableEq

/-- A number as it is written: a sign, digits before and after the point, and an exponent part. -/
structure Numeral where
  negative : Bool
  whole : List Char
  fraction : List Char
  exponent : Option (ExponentSign × List Char)
  deriving DecidableEq

namespace Numeral

/-- The exponent part with its mark. -/
def exponentText : Option (ExponentSign × List Char) → List Char
  | none => []
  | some (.bare, ds) => 'e' :: ds
  | some (.plus, ds) => 'e' :: '+' :: ds
  | some (.minus, ds) => 'e' :: '-' :: ds

/-- The point and the digits after it. -/
def fractionText : List Char → List Char
  | [] => []
  | ds => '.' :: ds

def text (n : Numeral) : List Char :=
  (if n.negative then ['-'] else []) ++ n.whole ++ fractionText n.fraction ++
    exponentText n.exponent

def ofNat (n : Nat) : Numeral := ⟨false, Nat.toDigits 10 n, [], none⟩

end Numeral

/-- How the digits of a number are laid out. -/
structure Layout where
  /-- The least and greatest decimal exponent of the first digit that are written without an
  exponent part. -/
  least : Int
  greatest : Int
  /-- Whole numbers written without an exponent part end in `.0`. -/
  pointZero : Bool
  /-- The sign of an exponent part that is not negative, and the fewest digits after it. -/
  sign : ExponentSign
  width : Nat
  /-- Where two nearest decimals are equally near, the greater is taken, not the even one. -/
  tieUp : Bool

namespace Layout

/-- Plain positional text: never an exponent part, whole numbers without a point. -/
def positional : Layout := ⟨-400, 400, false, .bare, 1, true⟩

/-- The text of a number inside the text of a value: whole numbers keep a point, and very large
and very small numbers have an exponent part. -/
def inspected : Layout := ⟨-4, 15, true, .bare, 1, true⟩

/-- The text of a number in JSON. -/
def json : Layout := ⟨-5, 15, true, .plus, 2, false⟩

end Layout

namespace Decimal

/-- A number without an exponent part. -/
def plain (d : Decimal) (pointZero negative : Bool) : Numeral :=
  let ds := Nat.toDigits 10 d.digits
  if 0 ≤ d.exponent then
    ⟨negative, ds ++ List.replicate d.exponent.toNat '0', if pointZero then ['0'] else [], none⟩
  else
    let places := (-d.exponent).toNat
    let padded := List.replicate (places + 1 - ds.length) '0' ++ ds
    let whole := padded.length - places
    ⟨negative, padded.take whole, padded.drop whole, none⟩

/-- The decimal exponent of the first digit. -/
def firstExponent (d : Decimal) : Int :=
  d.exponent + ((Nat.toDigits 10 d.digits).length : Int) - 1

/-- A number with one digit before the point and an exponent part. -/
def scientific (d : Decimal) (layout : Layout) (negative : Bool) : Numeral :=
  let ds := Nat.toDigits 10 d.digits
  let x := d.firstExponent
  let e := Nat.toDigits 10 x.natAbs
  ⟨negative, ds.take 1, ds.drop 1,
    some (if x < 0 then .minus else layout.sign, List.replicate (layout.width - e.length) '0' ++ e)⟩

/-- A decimal laid out. -/
def numeral (d : Decimal) (layout : Layout) (negative : Bool) : Numeral :=
  if layout.least ≤ d.firstExponent ∧ d.firstExponent ≤ layout.greatest then
    d.plain layout.pointZero negative
  else d.scientific layout negative

end Decimal

namespace Binary64

/-- A finite number laid out. -/
def numeral? (layout : Layout) : Binary64 → Option Numeral
  | .nan => none
  | .signed s a =>
    if a.isInfinite then none else some ((Decimal.shortest a layout.tieUp).numeral layout s)

/-- The text of any number in the given layout. -/
def text (layout : Layout) (x : Binary64) : String :=
  match x.numeral? layout, x with
  | some n, _ => String.ofList n.text
  | none, .nan => "NaN"
  | none, .signed s _ => if s then "-inf" else "inf"

end Binary64

end HealthRelay
