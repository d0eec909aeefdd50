import HealthRelay.Binary64.Text
import HealthRelay.Text.Digits

/-!
The number that a JSON numeral stands for.

A numeral without point and exponent part is a whole number if it fits a 64-bit word, signed or
not. Any other is a binary64 number made in two roundings: the leading digits that fit a 64-bit
word are rounded to binary64, and the result is scaled by a rounded power of ten. So reading is
not always to nearest.
-/

namespace HealthRelay.Json

/-- A number as it is read. -/
inductive Number where
  /-- Zero or a positive whole number below `2 ^ 64`. -/
  | natural (n : Nat)
  /-- Minus a positive whole number, at least `-(2 ^ 63)`. -/
  | negative (n : Nat)
  | real (x : Binary64)
  deriving DecidableEq

/-- Digits read into a 64-bit word, with the power of ten that is still to be applied. -/
structure Significand where
  value : Nat
  exponent : Int

namespace Significand

/-- Digits before the point: from the first that does not fit, each counts as a power of ten. -/
def ofWhole : Significand → List Char → Significand
  | s, [] => s
  | s, c :: ds =>
    if s.exponent = 0 ∧ 10 * s.value + Text.digitValue c < UInt64.size then
      ofWhole ⟨10 * s.value + Text.digitValue c, 0⟩ ds
    else ofWhole ⟨s.value, s.exponent + 1⟩ ds

/-- Digits after the point: from the first that does not fit, the rest is dropped. -/
def addFraction : Significand → List Char → Significand
  | s, [] => s
  | s, c :: ds =>
    if 10 * s.value + Text.digitValue c < UInt64.size then
      addFraction ⟨10 * s.value + Text.digitValue c, s.exponent - 1⟩ ds
    else s

/-- Division by a power of ten, at most `10 ^ 308` at a time; `steps` bounds the divisions. -/
def shrink (x : Magnitude) (places : Nat) : Nat → Magnitude
  | 0 => x
  | steps + 1 =>
    if places ≤ 308 then x / .ofNat (Nat.pow 10 places)
    else if x.rank = 0 then x
    else shrink (x / .ofNat (Nat.pow 10 308)) (places - 308) steps

/-- The number scaled by its power of ten, unless that is too large. -/
def magnitude? (s : Significand) : Option Magnitude :=
  let x := Magnitude.ofNat s.value
  if s.exponent < 0 then some (shrink x (-s.exponent).toNat ((-s.exponent).toNat + 1))
  else if s.value = 0 then some x
  else if 308 < s.exponent then none
  else
    let scaled := x * .ofNat (Nat.pow 10 s.exponent.toNat)
    if scaled.isInfinite then none else some scaled

end Significand

/-- The number a numeral stands for, unless it is too large for binary64. -/
def number? (n : Numeral) : Option Number :=
  let whole := Significand.ofWhole ⟨0, 0⟩ n.whole
  let signed (x : Option Magnitude) : Option Number := x.map fun a => .real (.signed n.negative a)
  match n.fraction, n.exponent with
  | [], none =>
    if whole.exponent ≠ 0 then signed whole.magnitude?
    else if !n.negative then some (.natural whole.value)
    else if whole.value = 0 ∨ 9223372036854775808 < whole.value then
      some (.real (.signed true (.ofNat whole.value)))
    else some (.negative whole.value)
  | fraction, none => signed (whole.addFraction fraction).magnitude?
  | fraction, some (sign, ds) =>
    let s := whole.addFraction fraction
    let e := Text.digitsValue ds
    if 2147483648 ≤ e then
      if s.value ≠ 0 ∧ sign ≠ .minus then none else signed (some .zero)
    else
      signed (Significand.magnitude?
        ⟨s.value, if sign = .minus then s.exponent - e else s.exponent + e⟩)

end HealthRelay.Json
