import HealthRelay.Proofs.NumberOrder

/-!
Rounding keeps the order of values and gives back what needs no rounding; so do the operations that
round their results.
-/
namespace HealthRelay

variable {m n d k : Nat}

/-! Rounding to whole numbers. -/

theorem divNearest_mul (n : Nat) (hd : 0 < d) : divNearest (n * d) d = n := by
  simp [divNearest, Nat.mul_div_cancel n hd, hd]

theorem divNearest_le_divNearest (h : m ≤ n) (d : Nat) : divNearest m d ≤ divNearest n d := by
  have hquot : m / d ≤ n / d := Nat.div_le_div_right h
  have hm : d * (m / d) + m % d = m := Nat.div_add_mod m d
  have hn : d * (n / d) + n % d = n := Nat.div_add_mod n d
  obtain hlt | heq := Nat.lt_or_eq_of_le hquot
  · have hup : divNearest m d ≤ m / d + 1 := by
      simp only [divNearest]
      split <;> omega
    have hdown : n / d ≤ divNearest n d := by
      simp only [divNearest]
      split <;> omega
    omega
  · -- Between the same two whole numbers only the rests decide.
    simp only [divNearest, heq]
    rw [heq] at hm
    split <;> split <;> omega

theorem divNearest_le (hd : 0 < d) (h : n ≤ k * d) : divNearest n d ≤ k :=
  divNearest_mul k hd ▸ divNearest_le_divNearest h d

theorem le_divNearest (hd : 0 < d) (h : k * d ≤ n) : k ≤ divNearest n d := by
  have hle := divNearest_le_divNearest h d
  rwa [divNearest_mul k hd] at hle

/-! Rounding to ranks. -/

/-- The binary order of magnitude that a quotient is rounded in. -/
def quotientScale (m d : Nat) : Nat := (m / d).log2 - 52

theorem nearestRank_eq (m d : Nat) :
    nearestRank m d =
      quotientScale m d * binade + divNearest m (d * 2 ^ quotientScale m d) := rfl

theorem binade_eq : binade = 2 ^ 52 := rfl

theorem quotientScale_le (h : m ≤ n) (d : Nat) : quotientScale m d ≤ quotientScale n d := by
  have hquot : m / d ≤ n / d := Nat.div_le_div_right h
  apply Nat.sub_le_sub_right
  by_cases hzero : m / d = 0
  · simp [hzero]
  · have hnext : n / d ≠ 0 := ((Nat.pos_of_ne_zero hzero).trans_le hquot).ne'
    exact (Nat.le_log2 hnext).2 ((Nat.log2_self_le hzero).trans hquot)

/-- A significand has at most 53 binary digits. -/
theorem le_significand (m : Nat) (hd : 0 < d) :
    m ≤ 2 * binade * (d * 2 ^ quotientScale m d) := by
  have hpow : m / d < 2 * binade * 2 ^ quotientScale m d := by
    rw [binade_eq, ← Nat.pow_succ', ← Nat.pow_add]
    refine Nat.lt_of_lt_of_le Nat.lt_log2_self (Nat.pow_le_pow_right Nat.two_pos ?_)
    simp only [quotientScale]
    omega
  calc m ≤ 2 * binade * 2 ^ quotientScale m d * d := ((Nat.div_lt_iff_lt_mul hd).1 hpow).le
    _ = 2 * binade * (d * 2 ^ quotientScale m d) := by rw [Nat.mul_assoc, Nat.mul_comm d]

/-- Beyond the first scale it has no fewer. -/
theorem significand_le (hscale : quotientScale m d ≠ 0) :
    binade * (d * 2 ^ quotientScale m d) ≤ m := by
  have hlog : (m / d).log2 = 52 + quotientScale m d := by
    simp only [quotientScale] at hscale ⊢
    omega
  have hquot : m / d ≠ 0 := by
    intro hzero
    simp [quotientScale, hzero] at hscale
  have hpow : binade * 2 ^ quotientScale m d ≤ m / d := by
    rw [binade_eq, ← Nat.pow_add, ← hlog]
    exact Nat.log2_self_le hquot
  calc binade * (d * 2 ^ quotientScale m d) = binade * 2 ^ quotientScale m d * d := by
        rw [Nat.mul_assoc, Nat.mul_comm d]
    _ ≤ m / d * d := Nat.mul_le_mul_right d hpow
    _ ≤ m := Nat.div_mul_le_self m d

/-- Rounding keeps the order, also where the distance between values doubles. -/
theorem nearestRank_le_nearestRank (hd : 0 < d) (h : m ≤ n) :
    nearestRank m d ≤ nearestRank n d := by
  rw [nearestRank_eq, nearestRank_eq]
  obtain hlt | heq := Nat.lt_or_eq_of_le (quotientScale_le h d)
  · have hlow : divNearest m (d * 2 ^ quotientScale m d) ≤ 2 * binade :=
      divNearest_le (Nat.mul_pos hd (Nat.two_pow_pos _)) (le_significand m hd)
    have hhigh : binade ≤ divNearest n (d * 2 ^ quotientScale n d) :=
      le_divNearest (Nat.mul_pos hd (Nat.two_pow_pos _)) (significand_le (by omega))
    have hscale : (quotientScale m d + 1) * binade ≤ quotientScale n d * binade :=
      Nat.mul_le_mul_right binade hlt
    rw [Nat.succ_mul] at hscale
    omega
  · rw [heq]
    exact Nat.add_le_add_left (divNearest_le_divNearest h _) _

theorem log2_significand {s : Nat} (hk : k < binade) : ((binade + k) * 2 ^ s).log2 = 52 + s := by
  have hpow : 0 < 2 ^ s := Nat.two_pow_pos s
  rw [Nat.log2_eq_iff (Nat.mul_pos (by omega) hpow).ne', Nat.add_right_comm, Nat.pow_add,
    Nat.pow_add]
  exact ⟨Nat.mul_le_mul_right _ (binade_eq ▸ Nat.le_add_right _ _),
    Nat.mul_lt_mul_of_pos_right (by have := binade_eq; omega) hpow⟩

/-- What has a rank is not rounded. -/
theorem nearestRank_unitsOfRank (r : Nat) (hd : 0 < d) : nearestRank (unitsOfRank r * d) d = r := by
  have hquot : unitsOfRank r * d / d = unitsOfRank r := Nat.mul_div_cancel _ hd
  rw [nearestRank_eq, quotientScale, hquot]
  by_cases hlow : r < 2 * binade
  · have hlog : r.log2 - 52 = 0 := by
      by_cases hr : r = 0
      · simp [hr]
      · have : r.log2 < 53 := (Nat.log2_lt hr).2 hlow
        omega
    rw [unitsOfRank_of_lt hlow, hlog, Nat.zero_mul, Nat.zero_add, Nat.pow_zero, Nat.mul_one,
      divNearest_mul r hd]
  · obtain ⟨s, k, hk, rfl⟩ := exists_scaled (r := r) (by omega)
    have hlog : ((binade + k) * 2 ^ s).log2 - 52 = s := by
      rw [log2_significand hk, Nat.add_sub_cancel_left]
    rw [unitsOfRank_scaled hk, hlog, Nat.mul_assoc, Nat.mul_comm (2 ^ s) d,
      divNearest_mul _ (Nat.mul_pos hd (Nat.two_pow_pos s)), Nat.succ_mul, Nat.add_assoc]

namespace Magnitude

variable {a a' b b' : Magnitude}

theorem le_infinity (a : Magnitude) : a ≤ infinity := a.rank_le

theorem isInfinite_iff : a.isInfinite = true ↔ a = infinity := by
  rcases a with ⟨rank, hrank⟩
  simp [isInfinite, infinity]

/-- What is not more than a finite value is finite. -/
theorem isInfinite_of_le (h : a ≤ b) (ha : a.isInfinite = true) : b.isInfinite = true := by
  rw [isInfinite_iff] at ha ⊢
  subst ha
  rcases b with ⟨rank, hrank⟩
  have hle : infinityRank ≤ rank := h
  simp [infinity, Nat.le_antisymm hrank hle]

theorem ofUnits_le_ofUnits (hd : 0 < d) (h : m ≤ n) : ofUnits m d ≤ ofUnits n d := by
  have hle := nearestRank_le_nearestRank hd h
  change min (nearestRank m d) infinityRank ≤ min (nearestRank n d) infinityRank
  omega

theorem ofUnits_units (a : Magnitude) (hd : 0 < d) : ofUnits (a.units * d) d = a := by
  rcases a with ⟨rank, hrank⟩
  simp [ofUnits, units, nearestRank_unitsOfRank rank hd, hrank]

theorem unitsPerOne_pos : 0 < unitsPerOne := by decide +kernel

theorem mul_eq (a b : Magnitude) :
    a * b =
      if a.isInfinite || b.isInfinite then infinity
      else ofUnits (a.units * b.units) unitsPerOne := rfl

protected theorem mul_comm (a b : Magnitude) : a * b = b * a := by
  rw [mul_eq, mul_eq, Bool.or_comm, Nat.mul_comm]

protected theorem one_mul (a : Magnitude) : one * a = a := by
  have hone : one.isInfinite = false := by decide +kernel
  rw [mul_eq, hone, Bool.false_or, units_one, Nat.mul_comm, ofUnits_units a unitsPerOne_pos]
  split
  · next hinfinite => exact (isInfinite_iff.1 hinfinite).symm
  · rfl

protected theorem mul_le_mul (ha : a ≤ a') (hb : b ≤ b') : a * b ≤ a' * b' := by
  rw [mul_eq a' b']
  split
  · exact le_infinity _
  · next hfinite =>
    have hfinite' : (a.isInfinite || b.isInfinite) = false := by
      rw [Bool.not_eq_true, Bool.or_eq_false_iff] at hfinite
      rw [Bool.or_eq_false_iff]
      exact ⟨Bool.eq_false_iff.2 fun h => by simp [isInfinite_of_le ha h] at hfinite,
        Bool.eq_false_iff.2 fun h => by simp [isInfinite_of_le hb h] at hfinite⟩
    rw [mul_eq a b, hfinite']
    exact ofUnits_le_ofUnits unitsPerOne_pos
      (Nat.mul_le_mul (units_le_units.2 ha) (units_le_units.2 hb))

protected theorem div_le_div (h : a ≤ a') (hb : 0 < b.units) : a / b ≤ a' / b := by
  have heq (c : Magnitude) :
      c / b = if c.isInfinite then infinity else ofUnits (c.units * unitsPerOne) b.units := rfl
  rw [heq a']
  split
  · exact le_infinity _
  · next hfinite =>
    rw [heq a, if_neg fun ha => hfinite (isInfinite_of_le h ha)]
    exact ofUnits_le_ofUnits hb (Nat.mul_le_mul_right _ (units_le_units.2 h))

theorem nearest_le_nearest (h : m ≤ n) : nearest m 1 ≤ nearest n 1 :=
  ofUnits_le_ofUnits Nat.one_pos (Nat.mul_le_mul_right _ h)

/-- A factor of at least one makes nothing smaller, for all the rounding. -/
theorem le_mul_of_one_le (a : Magnitude) (hb : one ≤ b) : a ≤ a * b := by
  have hle : one * a ≤ b * a := Magnitude.mul_le_mul hb (Nat.le_refl _)
  rwa [Magnitude.one_mul, Magnitude.mul_comm] at hle

end Magnitude

end HealthRelay
