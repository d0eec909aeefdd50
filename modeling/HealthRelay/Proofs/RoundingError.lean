import HealthRelay.Proofs.ExactValues
import Mathlib.Algebra.Order.Field.Rat
import Mathlib.Algebra.Order.Ring.Pow
import Mathlib.Data.Nat.Cast.Order.Field
import Mathlib.Tactic.GCongr
import Mathlib.Tactic.Linarith
import Mathlib.Tactic.NormNum
import Mathlib.Tactic.Positivity
import Mathlib.Tactic.Ring

/-!
How far rounding goes. A rounded value that is neither very small nor very large differs from the
exact one by a factor within `2 ^ -53` of one, and the factors of several operations multiply; so
a value computed in a few operations is known to a few of these.
-/
namespace HealthRelay

variable {d e j k m n : ℕ} {x x' y y' c : ℚ}

/-! The error of one rounding, in units. -/

/-- Division to the nearest is off by half the divisor at most. -/
theorem divNearest_error (m : ℕ) (hd : 0 < d) :
    2 * m ≤ 2 * (divNearest m d * d) + d ∧ 2 * (divNearest m d * d) ≤ 2 * m + d := by
  have hm : m / d * d + m % d = m := Nat.div_add_mod' m d
  have hlt : m % d < d := Nat.mod_lt m hd
  simp only [divNearest]
  split
  · omega
  · rw [Nat.succ_mul (m / d)]
    omega

theorem divNearest_eq (hlow : 2 * (n * d) < 2 * m + d) (hhigh : 2 * m < 2 * (n * d) + d) :
    divNearest m d = n := by
  have hd : 0 < d := by omega
  obtain ⟨hdown, hup⟩ := divNearest_error m hd
  have hge : n * d < (divNearest m d + 1) * d := by
    rw [Nat.succ_mul]
    omega
  have hle : divNearest m d * d < (n + 1) * d := by
    rw [Nat.succ_mul]
    omega
  have hge' := Nat.lt_of_mul_lt_mul_right hge
  have hle' := Nat.lt_of_mul_lt_mul_right hle
  omega

/-- The value of the nearest rank, by its scale. -/
theorem unitsOfRank_nearestRank (m : ℕ) (hd : 0 < d) :
    unitsOfRank (nearestRank m d) =
      divNearest m (d * 2 ^ quotientScale m d) * 2 ^ quotientScale m d := by
  have hscaled : 0 < d * 2 ^ quotientScale m d := Nat.mul_pos hd (Nat.two_pow_pos _)
  rw [nearestRank_eq]
  apply unitsOfRank_significand
  · by_cases hscale : quotientScale m d = 0
    · exact .inl hscale
    · exact .inr (le_divNearest hscaled (significand_le hscale))
  · exact divNearest_le hscaled (le_significand m hd)

/-- The nearest value is off by a `2 ^ 53`-rd part at most, above the values that have fewer than 53
binary digits. -/
theorem nearestRank_error (hd : 0 < d) (hnormal : binade * d ≤ m) :
    2 ^ 53 * m ≤ 2 ^ 53 * (unitsOfRank (nearestRank m d) * d) + m ∧
      2 ^ 53 * (unitsOfRank (nearestRank m d) * d) ≤ 2 ^ 53 * m + m := by
  have hhalf : binade * (d * 2 ^ quotientScale m d) ≤ m := by
    by_cases hscale : quotientScale m d = 0
    · simpa [hscale] using hnormal
    · exact significand_le hscale
  have herror := divNearest_error m (Nat.mul_pos hd (Nat.two_pow_pos (quotientScale m d)))
  have hunits : unitsOfRank (nearestRank m d) * d =
      divNearest m (d * 2 ^ quotientScale m d) * (d * 2 ^ quotientScale m d) := by
    rw [unitsOfRank_nearestRank m hd, Nat.mul_assoc, Nat.mul_comm (2 ^ _) d]
  rw [hunits]
  rw [binade_eq] at hhalf
  omega

/-! Values that are equal but for a few roundings. -/

/-- The greatest relative error of a rounding. -/
def unitRoundoff : ℚ := 1 / 2 ^ 53

/-- So many roundings can make `x` of `y`. -/
structure Within (k : ℕ) (x y : ℚ) : Prop where
  lower : (1 - unitRoundoff) ^ k * y ≤ x
  upper : x ≤ (1 + unitRoundoff) ^ k * y

theorem unitRoundoff_pos : 0 < unitRoundoff := by norm_num [unitRoundoff]

theorem unitRoundoff_lt_one : unitRoundoff < 1 := by norm_num [unitRoundoff]

namespace Within

theorem refl (x : ℚ) : Within 0 x x := by
  constructor <;> simp

theorem trans {z : ℚ} (hxy : Within j x y) (hyz : Within k y z) : Within (j + k) x z := by
  have hpos : 0 ≤ (1 - unitRoundoff) ^ j := pow_nonneg (by linarith [unitRoundoff_lt_one]) j
  have hpos' : 0 ≤ (1 + unitRoundoff) ^ j := pow_nonneg (by linarith [unitRoundoff_pos]) j
  constructor
  · calc (1 - unitRoundoff) ^ (j + k) * z
        = (1 - unitRoundoff) ^ j * ((1 - unitRoundoff) ^ k * z) := by ring
      _ ≤ (1 - unitRoundoff) ^ j * y := mul_le_mul_of_nonneg_left hyz.lower hpos
      _ ≤ x := hxy.lower
  · calc x ≤ (1 + unitRoundoff) ^ j * y := hxy.upper
      _ ≤ (1 + unitRoundoff) ^ j * ((1 + unitRoundoff) ^ k * z) :=
        mul_le_mul_of_nonneg_left hyz.upper hpos'
      _ = (1 + unitRoundoff) ^ (j + k) * z := by ring

theorem mono (h : Within j x y) (hjk : j ≤ k) (hy : 0 ≤ y) : Within k x y := by
  have hlow : 0 ≤ 1 - unitRoundoff := by linarith [unitRoundoff_lt_one]
  have hlow' : 1 - unitRoundoff ≤ 1 := by linarith [unitRoundoff_pos]
  have hhigh : 1 ≤ 1 + unitRoundoff := by linarith [unitRoundoff_pos]
  constructor
  · refine le_trans (mul_le_mul_of_nonneg_right ?_ hy) h.lower
    exact pow_le_pow_of_le_one hlow hlow' hjk
  · refine le_trans h.upper (mul_le_mul_of_nonneg_right ?_ hy)
    exact pow_le_pow_right₀ hhigh hjk

theorem add (h : Within k x y) (h' : Within k x' y') : Within k (x + x') (y + y') := by
  have hlower := add_le_add h.lower h'.lower
  have hupper := add_le_add h.upper h'.upper
  constructor <;> rw [mul_add] <;> assumption

theorem mul_right (h : Within k x y) (hc : 0 ≤ c) : Within k (x * c) (y * c) := by
  have hlower := mul_le_mul_of_nonneg_right h.lower hc
  have hupper := mul_le_mul_of_nonneg_right h.upper hc
  constructor <;> rw [← mul_assoc] <;> assumption

/-- The roundings take away no more than they can add. -/
theorem near (h : Within k x y) (hy : 0 ≤ y) :
    |x - y| ≤ ((1 + unitRoundoff) ^ k - 1) * y := by
  -- Each power is at least its first two terms, and these add up to two.
  have hgrow : 1 + k * unitRoundoff ≤ (1 + unitRoundoff) ^ k :=
    one_add_mul_le_pow (by linarith [unitRoundoff_pos]) k
  have hshrink : 1 + k * -unitRoundoff ≤ (1 + -unitRoundoff) ^ k :=
    one_add_mul_le_pow (by linarith [unitRoundoff_lt_one]) k
  have hlower : (1 - ((1 + unitRoundoff) ^ k - 1)) * y ≤ x := by
    refine le_trans (mul_le_mul_of_nonneg_right ?_ hy) h.lower
    rw [sub_eq_add_neg 1 unitRoundoff]
    linarith
  have hupper := h.upper
  rw [abs_le]
  constructor <;> linarith

end Within

/-- Zero, or a number of so small an order of magnitude, one way or the other. -/
def IsModerate (e : ℕ) (x : ℚ) : Prop := x = 0 ∨ 1 / 2 ^ e ≤ x ∧ x ≤ 2 ^ e

theorem IsModerate.mono (h : IsModerate e x) (hek : e ≤ k) : IsModerate k x := by
  obtain hzero | ⟨hlow, hhigh⟩ := h
  · exact .inl hzero
  · have hpow : (2 : ℚ) ^ e ≤ 2 ^ k := pow_le_pow_right₀ (by norm_num) hek
    refine .inr ⟨le_trans ?_ hlow, hhigh.trans hpow⟩
    exact one_div_le_one_div_of_le (by positivity) hpow

theorem isModerate_div (hn : n ≤ 2 ^ 100) (hd : 0 < d) (hd' : d ≤ 2 ^ 100) :
    IsModerate 100 ((n : ℚ) / d) := by
  obtain rfl | hpos := Nat.eq_zero_or_pos n
  · exact .inl (by simp)
  have hn' : (n : ℚ) ≤ 2 ^ 100 := by exact_mod_cast hn
  have hone : (1 : ℚ) ≤ n := by exact_mod_cast hpos
  have hone' : (1 : ℚ) ≤ d := by exact_mod_cast hd
  have hle : (d : ℚ) ≤ 2 ^ 100 := by exact_mod_cast hd'
  refine .inr ⟨?_, ?_⟩
  · exact div_le_div₀ (Nat.cast_nonneg n) hone (by positivity) hle
  · exact (div_le_self (Nat.cast_nonneg n) hone').trans hn'

/-- Roundings change the order of magnitude by one each at most. -/
theorem Within.isModerate (h : Within k x y) (hy : IsModerate e y) : IsModerate (e + k) x := by
  obtain rfl | ⟨hlow, hhigh⟩ := hy
  · have hlower := h.lower
    have hupper := h.upper
    rw [mul_zero] at hlower hupper
    exact .inl (le_antisymm hupper hlower)
  have hy : 0 ≤ y := le_trans (by positivity) hlow
  -- A rounding never halves a number or doubles it.
  have hhalf : (1 / 2 : ℚ) ≤ 1 - unitRoundoff := by norm_num [unitRoundoff]
  have htwice : 1 + unitRoundoff ≤ 2 := by norm_num [unitRoundoff]
  refine .inr ⟨?_, ?_⟩
  · calc (1 : ℚ) / 2 ^ (e + k) = (1 / 2) ^ k * (1 / 2 ^ e) := by
          rw [pow_add, div_pow, one_pow]
          ring
      _ ≤ (1 - unitRoundoff) ^ k * y := by gcongr
      _ ≤ x := h.lower
  · calc x ≤ (1 + unitRoundoff) ^ k * y := h.upper
      _ ≤ 2 ^ k * 2 ^ e := by
          have hpos : 0 ≤ 1 + unitRoundoff := by linarith [unitRoundoff_pos]
          gcongr
      _ = 2 ^ (e + k) := by ring

namespace Magnitude

variable {a b : Magnitude}

/-- The value as a number. -/
def value (a : Magnitude) : ℚ := a.units / unitsPerOne

/-- The value is finite, and so many roundings can have made it of `y`. -/
structure Approximates (a : Magnitude) (k : ℕ) (y : ℚ) : Prop extends Within k a.value y where
  finite : a.isInfinite = false

theorem unitsPerOne_cast_pos : (0 : ℚ) < unitsPerOne := Nat.cast_pos.2 unitsPerOne_pos

theorem units_eq_value (a : Magnitude) : (a.units : ℚ) = a.value * unitsPerOne :=
  (div_mul_cancel₀ _ unitsPerOne_cast_pos.ne').symm

theorem isInfinite_ofUnits (hd : 0 < d) (hw : IsExact n) (hfinite : n < infinity.units)
    (h : m ≤ n * d) : (ofUnits m d).isInfinite = false := by
  have hle : (ofUnits m d).units ≤ (ofUnits (n * d) d).units :=
    units_le_units.2 (ofUnits_le_ofUnits hd h)
  rw [units_ofUnits hd hw hfinite] at hle
  exact isInfinite_eq_false_iff.2 (hle.trans_lt hfinite)

theorem units_ofUnits_of_finite (h : (ofUnits m d).isInfinite = false) :
    (ofUnits m d).units = unitsOfRank (nearestRank m d) := by
  have hne : min (nearestRank m d) infinityRank ≠ infinityRank := by
    simpa [isInfinite, ofUnits] using h
  have hrank : min (nearestRank m d) infinityRank = nearestRank m d := by omega
  simp only [units, ofUnits, hrank]

theorem within_ofUnits (hd : 0 < d) (hm : (m : ℚ) = y * unitsPerOne * d)
    (hnormal : binade * d ≤ m) (hfinite : (ofUnits m d).isInfinite = false) :
    Within 1 (ofUnits m d).value y := by
  have hUd : (0 : ℚ) < unitsPerOne * d := mul_pos unitsPerOne_cast_pos (Nat.cast_pos.2 hd)
  obtain ⟨hlower, hupper⟩ := nearestRank_error hd hnormal
  rw [← units_ofUnits_of_finite hfinite] at hlower hupper
  have hlower' : (2 : ℚ) ^ 53 * m ≤ 2 ^ 53 * ((ofUnits m d).units * d) + m := by
    exact_mod_cast hlower
  have hupper' : (2 : ℚ) ^ 53 * ((ofUnits m d).units * d) ≤ 2 ^ 53 * m + m := by
    exact_mod_cast hupper
  rw [units_eq_value, hm] at hlower' hupper'
  constructor
  · refine le_of_mul_le_mul_right ?_ hUd
    rw [unitRoundoff]
    linarith
  · refine le_of_mul_le_mul_right ?_ hUd
    rw [unitRoundoff]
    linarith

theorem isInfinite_of_moderate (hd : 0 < d) (hm : (m : ℚ) = y * unitsPerOne * d)
    (hy : IsModerate 200 y) : (ofUnits m d).isInfinite = false := by
  have hlarge : 2 ^ 200 * unitsPerOne < infinity.units :=
    pow_lt_units_infinity (by decide) (Nat.le_refl _)
  apply isInfinite_ofUnits hd (isExact_pow 200) hlarge
  have hhigh : y ≤ 2 ^ 200 := by
    obtain rfl | ⟨-, hhigh⟩ := hy
    · positivity
    · exact hhigh
  have hscaled : y * unitsPerOne ≤ 2 ^ 200 * unitsPerOne :=
    mul_le_mul_of_nonneg_right hhigh unitsPerOne_cast_pos.le
  have hle : (m : ℚ) ≤ 2 ^ 200 * unitsPerOne * d := by
    rw [hm]
    exact mul_le_mul_of_nonneg_right hscaled (Nat.cast_nonneg d)
  exact_mod_cast hle

/-- There are enough units below a moderate number for 53 binary digits. -/
theorem binade_mul_le (hm : (m : ℚ) = y * unitsPerOne * d) (hlow : 1 / 2 ^ 200 ≤ y) :
    binade * d ≤ m := by
  have hsmall : binade * 2 ^ 200 ≤ unitsPerOne := by decide +kernel
  have hsmall' : (binade : ℚ) * 2 ^ 200 ≤ unitsPerOne := by exact_mod_cast hsmall
  have hunits : (binade : ℚ) ≤ y * unitsPerOne :=
    calc (binade : ℚ) = 1 / 2 ^ 200 * (binade * 2 ^ 200) := by ring
      _ ≤ 1 / 2 ^ 200 * unitsPerOne := mul_le_mul_of_nonneg_left hsmall' (by positivity)
      _ ≤ y * unitsPerOne := mul_le_mul_of_nonneg_right hlow unitsPerOne_cast_pos.le
  have hle : (binade * d : ℚ) ≤ m := by
    rw [hm]
    exact mul_le_mul_of_nonneg_right hunits (Nat.cast_nonneg d)
  exact_mod_cast hle

theorem value_ofUnits_zero (hd : 0 < d) : (ofUnits 0 d).value = 0 := by
  have hunits : (ofUnits (0 * d) d).units = 0 := units_ofUnits hd ⟨0, rfl⟩ (by decide +kernel)
  rw [Nat.zero_mul] at hunits
  rw [value, hunits, Nat.cast_zero, zero_div]

/-- A moderate number is rounded once. -/
theorem approximates_ofUnits (hd : 0 < d) (hm : (m : ℚ) = y * unitsPerOne * d)
    (hy : IsModerate 200 y) : (ofUnits m d).Approximates 1 y := by
  have hfinite := isInfinite_of_moderate hd hm hy
  refine { toWithin := ?_, finite := hfinite }
  obtain rfl | ⟨hlow, -⟩ := hy
  · obtain rfl : m = 0 := by
      rw [zero_mul, zero_mul] at hm
      exact_mod_cast hm
    rw [value_ofUnits_zero hd]
    exact (Within.refl 0).mono (Nat.zero_le 1) le_rfl
  · exact within_ofUnits hd hm (binade_mul_le hm hlow) hfinite

/-! The operations. -/

theorem approximates_nearest (hd : 0 < d) (hy : IsModerate 200 ((n : ℚ) / d)) :
    (nearest n d).Approximates 1 (n / d) := by
  apply approximates_ofUnits hd ?_ hy
  have hd' : (d : ℚ) ≠ 0 := Nat.cast_ne_zero.2 hd.ne'
  rw [Nat.cast_mul, mul_right_comm, div_mul_cancel₀ _ hd']

theorem approximates_ofNat (hn : n < 2 ^ 53) : (ofNat n).Approximates 0 n := by
  have hunits := units_ofNat hn
  have hvalue : (ofNat n).value = n := by
    rw [value, hunits, Nat.cast_mul]
    exact mul_div_cancel_right₀ _ unitsPerOne_cast_pos.ne'
  refine { toWithin := hvalue ▸ Within.refl _, finite := ?_ }
  rw [isInfinite_eq_false_iff, hunits]
  exact pow_lt_units_infinity (by decide) hn.le

namespace Approximates

theorem value_eq (h : a.Approximates 0 y) : a.value = y := by
  have hlower := h.lower
  have hupper := h.upper
  rw [pow_zero, one_mul] at hlower hupper
  exact le_antisymm hupper hlower

theorem mono (h : a.Approximates j y) (hjk : j ≤ k) (hy : 0 ≤ y) : a.Approximates k y :=
  { toWithin := h.toWithin.mono hjk hy, finite := h.finite }

/-- One more rounding, of a number that earlier ones have made. -/
theorem of_rounded (hx : a.Approximates 1 x) (h : Within k x y) : a.Approximates (k + 1) y :=
  { toWithin := Nat.add_comm k 1 ▸ hx.toWithin.trans h, finite := hx.finite }

theorem add (ha : a.Approximates k x) (hb : b.Approximates k y) (hk : k ≤ 100)
    (hxy : IsModerate 100 (x + y)) : (a + b).Approximates (k + 1) (x + y) := by
  have hsum : Within k (a.value + b.value) (x + y) := ha.toWithin.add hb.toWithin
  have heq : a + b = ofUnits (a.units + b.units) 1 := by
    change (if a.isInfinite || b.isInfinite then _ else _) = _
    rw [ha.finite, hb.finite]
    rfl
  rw [heq]
  refine of_rounded (approximates_ofUnits Nat.one_pos ?_ ?_) hsum
  · push_cast
    rw [units_eq_value, units_eq_value]
    ring
  · exact (hsum.isModerate hxy).mono (by omega)

theorem mul (ha : a.Approximates k x) (hb : b.Approximates 0 c) (hc : 0 ≤ c) (hk : k ≤ 100)
    (hxc : IsModerate 100 (x * c)) : (a * b).Approximates (k + 1) (x * c) := by
  have hproduct : Within k (a.value * b.value) (x * c) := by
    rw [hb.value_eq]
    exact ha.toWithin.mul_right hc
  have heq : a * b = ofUnits (a.units * b.units) unitsPerOne := by
    rw [mul_eq, ha.finite, hb.finite]
    rfl
  rw [heq]
  refine of_rounded (approximates_ofUnits unitsPerOne_pos ?_ ?_) hproduct
  · push_cast
    rw [units_eq_value, units_eq_value]
    ring
  · exact (hproduct.isModerate hxc).mono (by omega)

theorem div (ha : a.Approximates k x) (hb : b.Approximates 0 c) (hc : 0 < c) (hk : k ≤ 100)
    (hxc : IsModerate 100 (x / c)) : (a / b).Approximates (k + 1) (x / c) := by
  have hquotient : Within k (a.value / b.value) (x / c) := by
    rw [hb.value_eq, div_eq_mul_inv, div_eq_mul_inv]
    exact ha.toWithin.mul_right (inv_nonneg.2 hc.le)
  have hunits : (b.units : ℚ) = c * unitsPerOne := by rw [units_eq_value, hb.value_eq]
  have hpos : 0 < b.units := by
    have hcast : (0 : ℚ) < b.units := hunits ▸ mul_pos hc unitsPerOne_cast_pos
    exact_mod_cast hcast
  have heq : a / b = ofUnits (a.units * unitsPerOne) b.units := by
    change (if a.isInfinite then _ else _) = _
    rw [ha.finite]
    rfl
  rw [heq]
  refine of_rounded (approximates_ofUnits hpos ?_ ?_) hquotient
  · have hcancel' : a.value / c * c = a.value := div_mul_cancel₀ _ hc.ne'
    rw [Nat.cast_mul, units_eq_value, hunits, hb.value_eq]
    calc a.value * unitsPerOne * unitsPerOne
        = a.value / c * c * unitsPerOne * unitsPerOne := by rw [hcancel']
      _ = a.value / c * unitsPerOne * (c * unitsPerOne) := by ring
  · exact (hquotient.isModerate hxc).mono (by omega)

end Approximates

end Magnitude

end HealthRelay
