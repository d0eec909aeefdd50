import HealthRelay.Proofs.Seconds

/-!
Delays that double from one attempt to the next, or grow by another power of two, are exact to the
nanosecond. Powers of two and products with them are not rounded, so all the rounding there is comes
from the first delay as seconds, and up to `2 ^ 21` seconds that is less than half a nanosecond.
-/
namespace HealthRelay

variable {e f j k n : ℕ}

namespace Magnitude

variable {a : Magnitude}

/-- The power of two with the given exponent; from `exponentLimit` on it is infinity. -/
def twoPow (e : ℕ) : Magnitude := ofNat (2 ^ e)

theorem twoPow_of_le (he : exponentLimit ≤ e) : twoPow e = infinity := by
  apply ofUnits_eq_infinity Nat.one_pos
  rw [units_infinity, Nat.mul_one]
  exact Nat.mul_le_mul_right _ (Nat.pow_le_pow_right Nat.two_pos he)

theorem units_twoPow (he : e < exponentLimit) : (twoPow e).units = 2 ^ e * unitsPerOne := by
  have hunits := units_ofUnits Nat.one_pos (isExact_pow e)
    (pow_lt_units_infinity he (Nat.le_refl _))
  rwa [Nat.mul_one] at hunits

theorem isInfinite_twoPow_of_lt (he : e < exponentLimit) : (twoPow e).isInfinite = false := by
  rw [isInfinite_eq_false_iff, units_twoPow he]
  exact pow_lt_units_infinity he (Nat.le_refl _)

theorem mul_infinity (a : Magnitude) : a * infinity = infinity := by
  rw [mul_eq, isInfinite_infinity, Bool.or_true, if_pos rfl]

theorem twoPow_mul_twoPow (e f : ℕ) : twoPow e * twoPow f = twoPow (e + f) := by
  by_cases he : exponentLimit ≤ e
  · rw [twoPow_of_le he, twoPow_of_le (he.trans (Nat.le_add_right e f)), Magnitude.mul_comm]
    exact mul_infinity _
  by_cases hf : exponentLimit ≤ f
  · rw [twoPow_of_le hf, twoPow_of_le (hf.trans (Nat.le_add_left f e))]
    exact mul_infinity _
  rw [Nat.not_le] at he hf
  have hproduct : 2 ^ e * unitsPerOne * (2 ^ f * unitsPerOne) =
      2 ^ (e + f) * unitsPerOne * unitsPerOne := by
    rw [Nat.mul_mul_mul_comm, ← Nat.pow_add, ← Nat.mul_assoc]
  rw [mul_eq, isInfinite_twoPow_of_lt he, isInfinite_twoPow_of_lt hf, units_twoPow he,
    units_twoPow hf, hproduct]
  have hsame := ofUnits_congr unitsPerOne_pos Nat.one_pos (isExact_pow (e + f))
  rw [Nat.mul_one] at hsame
  exact hsame

/-- Square and multiply loses nothing: where a product is beyond all values, so is the power. -/
theorem powDigits_twoPow (hn : n < 2 ^ k) :
    powDigits (twoPow e) (twoPow f) k n = twoPow (e + f * n) := by
  induction k generalizing e f n with
  | zero =>
    obtain rfl : n = 0 := by omega
    rfl
  | succ k ih =>
    rw [Nat.pow_succ] at hn
    have hhalf : n / 2 < 2 ^ k := by omega
    have hsplit : f * n = f * (n % 2) + (f + f) * (n / 2) := by
      have hn : n % 2 + 2 * (n / 2) = n := Nat.mod_add_div n 2
      calc f * n = f * (n % 2 + 2 * (n / 2)) := by rw [hn]
        _ = f * (n % 2) + (f + f) * (n / 2) := by ring
    simp only [powDigits, twoPow_mul_twoPow]
    split
    · next hodd =>
      rw [ih hhalf, hsplit, hodd]
      congr 1
      ring
    · next heven =>
      have hzero : n % 2 = 0 := by omega
      rw [ih hhalf, hsplit, hzero]
      congr 1
      ring

theorem pow_twoPow (j n : ℕ) : (twoPow j).pow n = twoPow (j * n) := by
  have hpow := @powDigits_twoPow 0 j (n.log2 + 1) n Nat.lt_log2_self
  rw [Nat.zero_add] at hpow
  exact hpow

theorem one_le_twoPow (e : ℕ) : one ≤ twoPow e :=
  ofUnits_le_ofUnits Nat.one_pos (Nat.mul_le_mul_right _ Nat.one_le_two_pow)

/-- A product with a power of two is not rounded, unless it is too large for a value. -/
theorem mul_twoPow (ha : a.isInfinite = false) (he : e < exponentLimit) :
    (a * twoPow e = infinity ∧ 2 ^ exponentLimit ≤ a.value * 2 ^ e) ∨
      ((a * twoPow e).isInfinite = false ∧ (a * twoPow e).value = a.value * 2 ^ e) := by
  have hproduct : a * twoPow e = ofUnits (a.units * 2 ^ e * unitsPerOne) unitsPerOne := by
    rw [mul_eq, ha, isInfinite_twoPow_of_lt he, units_twoPow he, Nat.mul_assoc]
    rfl
  have hexact : IsExact (a.units * 2 ^ e) := IsExact.mul_pow ⟨a.rank, rfl⟩ e
  rw [hproduct]
  by_cases hlarge : infinity.units ≤ a.units * 2 ^ e
  · left
    refine ⟨ofUnits_eq_infinity unitsPerOne_pos (Nat.mul_le_mul_right _ hlarge), ?_⟩
    rw [units_infinity] at hlarge
    have hlarge' : (2 : ℚ) ^ exponentLimit * unitsPerOne ≤ a.units * 2 ^ e := by
      exact_mod_cast hlarge
    rw [units_eq_value, mul_right_comm] at hlarge'
    exact le_of_mul_le_mul_right hlarge' unitsPerOne_cast_pos
  · right
    have hunits := units_ofUnits unitsPerOne_pos hexact (Nat.not_le.1 hlarge)
    rw [isInfinite_eq_false_iff, value, value, hunits]
    refine ⟨Nat.not_le.1 hlarge, ?_⟩
    push_cast
    ring

end Magnitude

namespace Duration

theorem nanos_min (d bound : Duration) : (min d bound).nanos = min d.nanos bound.nanos := by
  change (if d ≤ bound then d else bound).nanos = _
  split
  · next h => exact (Nat.min_eq_left h).symm
  · next h => exact (Nat.min_eq_right (Nat.le_of_not_le h)).symm

end Duration

namespace RetryPolicy

variable {p : RetryPolicy} {a : Magnitude}

theorem cap_infinity (p : RetryPolicy) : p.cap (Duration.ofMagnitude? .infinity) = p.maxBackoff := by
  have hnone : Duration.ofMagnitude? .infinity = none := by decide +kernel
  rw [hnone]
  rfl

/-- Seconds that two roundings have made of a number of nanoseconds come to that number, or to more
than the bound if the number is more. -/
theorem nanos_cap_of_approximates (h : a.Approximates 2 ((n : ℚ) / 1000000000))
    (hmax : p.maxBackoff.nanos ≤ 2 ^ 21 * 1000000000) :
    (p.cap (Duration.ofMagnitude? a)).nanos = min n p.maxBackoff.nanos := by
  have hmax' : (p.maxBackoff.nanos : ℚ) ≤ 2 ^ 21 * 1000000000 := by exact_mod_cast hmax
  by_cases hle : n ≤ p.maxBackoff.nanos
  · have hle' : (n : ℚ) ≤ p.maxBackoff.nanos := by exact_mod_cast hle
    have hsmall : 2 * (((1 + unitRoundoff) ^ 2 - 1) * (n : ℚ)) < 1 := by
      norm_num [unitRoundoff]
      linarith
    obtain ⟨d, hd, hnanos⟩ :=
      Duration.ofMagnitude?_of_approximates h hsmall (hle.trans_lt p.maxBackoff.nanos_lt)
    rw [hd, ← hnanos]
    exact Duration.nanos_min d _
  · have hgt : p.maxBackoff.nanos + 1 ≤ n := Nat.not_le.1 hle
    have hgt' : (p.maxBackoff.nanos : ℚ) + 1 ≤ n := by exact_mod_cast hgt
    -- The roundings take away less than the one nanosecond by which the number is more.
    have hreach : (p.maxBackoff.nanos : ℚ) ≤ a.value * 1000000000 := by
      have hlower := h.lower
      norm_num [unitRoundoff] at hlower
      linarith
    rw [Nat.min_eq_right (Nat.le_of_not_le hle)]
    cases hspan : Duration.ofMagnitude? a with
    | none => rfl
    | some d =>
      have hd := Duration.le_nanos_of_ofMagnitude? hspan hreach
      exact (Duration.nanos_min d _).trans (Nat.min_eq_right hd)

/-- The greatest exponent that a delay is computed with is beyond all values already. -/
theorem mul_min_maxExponent (h : j * min n maxExponent < exponentLimit) :
    j * min n maxExponent = j * n := by
  obtain rfl | hj := Nat.eq_zero_or_pos j
  · rw [Nat.zero_mul, Nat.zero_mul]
  · have hle : min n maxExponent ≤ j * min n maxExponent := Nat.le_mul_of_pos_left _ hj
    have hlt : min n maxExponent < 1024 := hle.trans_lt h
    rw [Nat.min_eq_left]
    rw [maxExponent] at hlt ⊢
    omega

/-- Where the power of two is beyond all values, it is beyond the bound as well. -/
theorem min_pow_eq (hpos : 1 ≤ n) (he : exponentLimit ≤ e) (hk : k ≤ 2 ^ 21 * 1000000000) :
    min (n * 2 ^ e) k = k := by
  have hpow : 2 ^ 60 ≤ 2 ^ e := Nat.pow_le_pow_right Nat.two_pos (le_trans (by decide) he)
  have hle : 1 * 2 ^ e ≤ n * 2 ^ e := Nat.mul_le_mul_right _ hpos
  exact Nat.min_eq_right (by omega)

/-- The first delay as seconds, times a power of two that is a value. -/
theorem nanos_cap_mul_twoPow (d : Duration) (hd : d.nanos ≤ 2 ^ 21 * 1000000000)
    (hmax : p.maxBackoff.nanos ≤ 2 ^ 21 * 1000000000) (he : e < exponentLimit) :
    (p.cap (Duration.ofMagnitude? (d.toSeconds * .twoPow e))).nanos =
      min (d.nanos * 2 ^ e) p.maxBackoff.nanos := by
  have hseconds : d.seconds < 2 ^ 53 := by
    rw [Duration.seconds]
    omega
  have hfirst := d.approximates_toSeconds hseconds
  have hscaled : Within 2 (d.toSeconds.value * 2 ^ e)
      (((d.nanos * 2 ^ e : ℕ) : ℚ) / 1000000000) := by
    have hmul := hfirst.toWithin.mul_right (show (0 : ℚ) ≤ 2 ^ e by positivity)
    rw [div_mul_eq_mul_div] at hmul
    exact_mod_cast hmul
  rcases Magnitude.mul_twoPow hfirst.finite he with ⟨hinfinite, hlarge⟩ | ⟨hfinite, hvalue⟩
  · -- Beyond all values, and so beyond the bound.
    have hlimit : (2 : ℚ) ^ 60 ≤ 2 ^ exponentLimit :=
      pow_le_pow_right₀ (by norm_num) (by decide)
    have hreach : (2 : ℚ) ^ 21 * 1000000000 ≤ (d.nanos * 2 ^ e : ℕ) := by
      have hupper := (hlimit.trans hlarge).trans hscaled.upper
      norm_num [unitRoundoff] at hupper ⊢
      linarith
    have hle : 2 ^ 21 * 1000000000 ≤ d.nanos * 2 ^ e := by exact_mod_cast hreach
    rw [hinfinite, cap_infinity, Nat.min_eq_right (hmax.trans hle)]
  · rw [← hvalue] at hscaled
    exact nanos_cap_of_approximates { toWithin := hscaled, finite := hfinite } hmax

/-- With a power of two as multiplier each delay is the first one times a power of two, or the bound
if that is less, to the nanosecond. -/
theorem delay_eq_min (hmultiplier : p.multiplier = .ofNat (2 ^ j))
    (hpos : 1 ≤ p.initialBackoff.nanos) (hinitial : p.initialBackoff.nanos ≤ 2 ^ 21 * 1000000000)
    (hmax : p.maxBackoff.nanos ≤ 2 ^ 21 * 1000000000) (attempt : ℕ) :
    (p.delay attempt).nanos =
      min (p.initialBackoff.nanos * 2 ^ (j * attempt)) p.maxBackoff.nanos := by
  have hpower : p.multiplier = .signed false (.twoPow j) := hmultiplier
  have hdelay := delay_of_multiplier hpower (Magnitude.one_le_twoPow j) attempt
  simp only [Magnitude.pow_twoPow] at hdelay
  by_cases he : j * min attempt maxExponent < exponentLimit
  · have hexponent := mul_min_maxExponent he
    rw [hexponent] at hdelay he
    rw [Magnitude.isInfinite_twoPow_of_lt he, Bool.false_and] at hdelay
    rw [hdelay]
    exact nanos_cap_mul_twoPow p.initialBackoff hinitial hmax he
  · rw [Nat.not_lt] at he
    have hbound : p.delay attempt = p.maxBackoff := by
      rw [Magnitude.twoPow_of_le he, Magnitude.mul_infinity, cap_infinity, ite_self] at hdelay
      exact hdelay
    have hle : j * min attempt maxExponent ≤ j * attempt :=
      Nat.mul_le_mul_left j (Nat.min_le_left _ _)
    rw [hbound, min_pow_eq hpos (he.trans hle) hmax]

/-- The last delay below the bound, and one that the exponent is cut for, with the values that are
filled in where nothing is set. -/
theorem delay_eq_min_default :
    let p := unset.withDefaults
    p.multiplier = .ofNat (2 ^ 1) ∧ 1 ≤ p.initialBackoff.nanos ∧
      p.initialBackoff.nanos ≤ 2 ^ 21 * 1000000000 ∧ p.maxBackoff.nanos ≤ 2 ^ 21 * 1000000000 ∧
      (p.delay 8).nanos = 256 * 1000000000 ∧ (p.delay 4294967295).nanos = 300 * 1000000000 := by
  have hmultiplier : unset.withDefaults.multiplier = .ofNat (2 ^ 1) := rfl
  have hpos : 1 ≤ unset.withDefaults.initialBackoff.nanos := by decide
  have hinitial : unset.withDefaults.initialBackoff.nanos ≤ 2 ^ 21 * 1000000000 := by decide
  have hmax : unset.withDefaults.maxBackoff.nanos ≤ 2 ^ 21 * 1000000000 := by decide
  refine ⟨hmultiplier, hpos, hinitial, hmax, ?_, ?_⟩
  · rw [delay_eq_min hmultiplier hpos hinitial hmax 8]
    decide
  · rw [delay_eq_min hmultiplier hpos hinitial hmax 4294967295, min_pow_eq hpos (by decide) hmax]
    rfl

end RetryPolicy

end HealthRelay
