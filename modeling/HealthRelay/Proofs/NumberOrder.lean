import HealthRelay.Binary64
import Mathlib.Algebra.Group.Nat.Defs
import Mathlib.Order.Monotone.Basic

/-!
The order of ranks is the order of values.
-/
namespace HealthRelay

theorem unitsOfRank_of_lt {r : Nat} (h : r < 2 * binade) : unitsOfRank r = r := by
  have hscale : r / binade - 1 = 0 := by
    have : r / binade < 2 := Nat.div_lt_of_lt_mul (by omega)
    omega
  simp [unitsOfRank, hscale]

/-- From the second power of two on, a rank is a scale and a significand. -/
theorem exists_scaled {r : Nat} (h : binade ≤ r) :
    ∃ s k, k < binade ∧ r = (s + 1) * binade + k := by
  have hpos : 0 < binade := by decide
  have hone : 1 ≤ r / binade := (Nat.one_le_div_iff hpos).2 h
  refine ⟨r / binade - 1, r % binade, Nat.mod_lt _ hpos, ?_⟩
  rw [Nat.sub_add_cancel hone, Nat.mul_comm, Nat.div_add_mod]

theorem unitsOfRank_scaled {s k : Nat} (hk : k < binade) :
    unitsOfRank ((s + 1) * binade + k) = (binade + k) * 2 ^ s := by
  have hscale : ((s + 1) * binade + k) / binade - 1 = s := by
    rw [Nat.add_comm, Nat.add_mul_div_right _ _ (by decide), Nat.div_eq_of_lt hk]
    omega
  have hrest : (s + 1) * binade + k - s * binade = binade + k := by
    rw [Nat.succ_mul]
    omega
  simp only [unitsOfRank, hscale, hrest]
  rfl

/-- The next rank is a greater value, also where the distance between values doubles. -/
theorem unitsOfRank_lt_succ (r : Nat) : unitsOfRank r < unitsOfRank (r + 1) := by
  by_cases hlow : r + 1 < 2 * binade
  · rw [unitsOfRank_of_lt hlow, unitsOfRank_of_lt (Nat.lt_of_succ_lt hlow)]
    exact Nat.lt_succ_self r
  obtain ⟨s, k, hk, rfl⟩ := exists_scaled (r := r) (by omega)
  rw [unitsOfRank_scaled hk]
  have hpow : 0 < 2 ^ s := Nat.two_pow_pos s
  by_cases hnext : k + 1 < binade
  · rw [Nat.add_assoc, unitsOfRank_scaled hnext]
    exact Nat.mul_lt_mul_of_pos_right (by omega) hpow
  · have hlast : binade = k + 1 := by omega
    have hcarry : (s + 1) * binade + k + 1 = (s + 1 + 1) * binade + 0 := by
      rw [Nat.succ_mul (s + 1)]
      omega
    rw [hcarry, unitsOfRank_scaled (by decide), Nat.pow_succ, Nat.add_zero, Nat.mul_comm (2 ^ s),
      ← Nat.mul_assoc]
    exact Nat.mul_lt_mul_of_pos_right (by omega) hpow

theorem strictMono_unitsOfRank : StrictMono unitsOfRank :=
  strictMono_nat_of_lt_succ unitsOfRank_lt_succ

namespace Magnitude

theorem units_le_units {a b : Magnitude} : a.units ≤ b.units ↔ a ≤ b :=
  strictMono_unitsOfRank.le_iff_le

theorem units_one : one.units = unitsPerOne := by decide +kernel

end Magnitude

namespace Binary64

theorem isZero_iff {x : Binary64} : x.isZero = true ↔ ∃ negative, x = .signed negative .zero := by
  rcases x with _ | ⟨negative, rank, hrank⟩
  · simp [isZero]
  · simp [isZero, Magnitude.zero]

theorem atLeastOne_iff {x : Binary64} :
    x.atLeastOne = true ↔ ∃ a, x = .signed false a ∧ unitsPerOne ≤ a.units := by
  rcases x with _ | ⟨_ | _, a⟩
  · simp [atLeastOne]
  · simp [atLeastOne, ← Magnitude.units_le_units, Magnitude.units_one]
  · simp [atLeastOne]

end Binary64

end HealthRelay
