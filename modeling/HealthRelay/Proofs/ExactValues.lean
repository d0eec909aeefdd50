import HealthRelay.Proofs.Rounding

/-!
What needs no rounding: a whole number of at most 53 binary digits times a power of two. So whole
numbers below `2 ^ 53` and powers of two are held as they are, and multiplying by a power of two
loses nothing short of infinity.
-/
namespace HealthRelay

variable {d d' e m n q s w : Nat}

/-- Some value, or infinity's power of two, is so many units. -/
def IsExact (w : Nat) : Prop := ∃ r, unitsOfRank r = w

/-- A significand of 53 binary digits at a scale; at the first scale it may have fewer. -/
theorem unitsOfRank_significand (hlow : s = 0 ∨ binade ≤ q) (hhigh : q ≤ 2 * binade) :
    unitsOfRank (s * binade + q) = q * 2 ^ s := by
  by_cases hq : q < binade
  · obtain rfl : s = 0 := by omega
    rw [Nat.zero_mul, Nat.zero_add, Nat.pow_zero, Nat.mul_one]
    exact unitsOfRank_of_lt (by omega)
  by_cases hlast : q = 2 * binade
  · -- The significand has carried over into the next scale.
    have hcarry : s * binade + q = (s + 1 + 1) * binade + 0 := by
      rw [Nat.succ_mul, Nat.succ_mul]
      omega
    rw [hcarry, unitsOfRank_scaled (by decide), hlast, Nat.pow_succ, Nat.add_zero,
      Nat.mul_comm (2 ^ s), ← Nat.mul_assoc, Nat.mul_comm binade]
  · obtain ⟨k, rfl⟩ : ∃ k, q = binade + k := ⟨q - binade, by omega⟩
    have hrank : s * binade + (binade + k) = (s + 1) * binade + k := by
      rw [Nat.succ_mul]
      omega
    rw [hrank]
    exact unitsOfRank_scaled (by omega)

namespace IsExact

theorem double (h : IsExact w) : IsExact (w * 2) := by
  obtain ⟨r, rfl⟩ := h
  by_cases hlow : r < binade
  · refine ⟨r * 2, ?_⟩
    rw [unitsOfRank_of_lt (r := r) (by omega)]
    exact unitsOfRank_of_lt (by omega)
  · obtain ⟨s, k, hk, rfl⟩ := exists_scaled (r := r) (by omega)
    refine ⟨(s + 1 + 1) * binade + k, ?_⟩
    rw [unitsOfRank_scaled hk, unitsOfRank_scaled hk, Nat.pow_succ, Nat.mul_assoc]

theorem mul_pow (h : IsExact w) (e : Nat) : IsExact (w * 2 ^ e) := by
  induction e with
  | zero => simpa using h
  | succ e ih =>
    rw [Nat.pow_succ, ← Nat.mul_assoc]
    exact ih.double

end IsExact

theorem isExact_whole (hn : n < 2 ^ 53) : IsExact (n * unitsPerOne) := by
  have hself : IsExact n := ⟨n, unitsOfRank_of_lt (by rw [binade_eq]; omega)⟩
  have hpow (e : Nat) : IsExact (n * Nat.pow 2 e) := hself.mul_pow e
  unfold unitsPerOne
  apply hpow

theorem isExact_pow (e : Nat) : IsExact (2 ^ e * unitsPerOne) := by
  rw [Nat.mul_comm]
  exact IsExact.mul_pow ⟨_, Magnitude.units_one⟩ e

/-- Powers of two with this exponent and beyond are infinite. -/
def exponentLimit : Nat := 1024

namespace Magnitude

variable {a : Magnitude}

theorem units_infinity : infinity.units = 2 ^ exponentLimit * unitsPerOne := by decide +kernel

theorem isInfinite_infinity : infinity.isInfinite = true := by decide

theorem eq_infinity_of_le (h : infinity ≤ a) : a = infinity :=
  isInfinite_iff.1 (isInfinite_of_le h isInfinite_infinity)

theorem isInfinite_eq_false_iff : a.isInfinite = false ↔ a.units < infinity.units := by
  rw [← Bool.not_eq_true, isInfinite_iff, ← Nat.not_le, not_iff_not]
  constructor
  · rintro rfl
    exact Nat.le_refl _
  · intro h
    exact eq_infinity_of_le (units_le_units.1 h)

/-- A number of units that some finite value has is not rounded. -/
theorem units_ofUnits (hd : 0 < d) (hw : IsExact w) (hfinite : w < infinity.units) :
    (ofUnits (w * d) d).units = w := by
  obtain ⟨r, rfl⟩ := hw
  have hr : r < infinityRank := strictMono_unitsOfRank.lt_iff_lt.1 hfinite
  simp only [ofUnits, units, nearestRank_unitsOfRank r hd, Nat.min_eq_left hr.le]

/-- Nor does it matter how it is written as a quotient. -/
theorem ofUnits_congr (hd : 0 < d) (hd' : 0 < d') (hw : IsExact w) :
    ofUnits (w * d) d = ofUnits (w * d') d' := by
  obtain ⟨r, rfl⟩ := hw
  simp only [ofUnits, nearestRank_unitsOfRank r hd, nearestRank_unitsOfRank r hd']

theorem ofUnits_eq_infinity (hd : 0 < d) (h : infinity.units * d ≤ m) :
    ofUnits m d = infinity := by
  have hle : ofUnits (infinity.units * d) d ≤ ofUnits m d := ofUnits_le_ofUnits hd h
  rw [ofUnits_units _ hd] at hle
  exact eq_infinity_of_le hle

theorem pow_lt_units_infinity (he : e < exponentLimit) (hn : n ≤ 2 ^ e) :
    n * unitsPerOne < infinity.units := by
  rw [units_infinity]
  have hpow : 2 ^ e < 2 ^ exponentLimit := Nat.pow_lt_pow_right (by decide) he
  exact Nat.mul_lt_mul_of_pos_right (hn.trans_lt hpow) unitsPerOne_pos

theorem units_ofNat (hn : n < 2 ^ 53) : (ofNat n).units = n * unitsPerOne := by
  have hfinite : n * unitsPerOne < infinity.units := pow_lt_units_infinity (by decide) hn.le
  have hunits := units_ofUnits Nat.one_pos (isExact_whole hn) hfinite
  rwa [Nat.mul_one] at hunits

end Magnitude

end HealthRelay
