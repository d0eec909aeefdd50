import HealthRelay.Proofs.Delays
import HealthRelay.Proofs.RoundingError

/-!
Spans of time as seconds in binary64. As long as the roundings of a computation add up to less than
half a nanosecond, the span that comes of it is the exact one.
-/
namespace HealthRelay

variable {k n : ℕ} {a : Magnitude}

namespace Duration

theorem ofMagnitude?_of_near (hn : n < UInt64.size * 1000000000)
    (h : |a.value * 1000000000 - n| < 1 / 2) : ∃ d, ofMagnitude? a = some d ∧ d.nanos = n := by
  have hU := Magnitude.unitsPerOne_cast_pos
  obtain ⟨hlow, hhigh⟩ := abs_lt.1 h
  refine ⟨⟨n, hn⟩, ofMagnitude?_eq_some_iff.2 ⟨?_, ?_⟩, rfl⟩
  · have hn' : (n : ℚ) + 1 ≤ UInt64.size * 1000000000 := by exact_mod_cast hn
    have hvalue : a.value < UInt64.size := by linarith
    have hunits : (a.units : ℚ) < UInt64.size * unitsPerOne := by
      rw [a.units_eq_value]
      exact mul_lt_mul_of_pos_right hvalue hU
    exact_mod_cast hunits
  · symm
    -- The nearest whole number of nanoseconds, with units in place of seconds.
    have hdown : 2 * (n * unitsPerOne : ℚ) < 2 * (a.units * 1000000000) + unitsPerOne := by
      rw [a.units_eq_value]
      have hscaled := mul_lt_mul_of_pos_right hlow hU
      linarith
    have hup : 2 * (a.units * 1000000000 : ℚ) < 2 * (n * unitsPerOne) + unitsPerOne := by
      rw [a.units_eq_value]
      have hscaled := mul_lt_mul_of_pos_right hhigh hU
      linarith
    exact divNearest_eq (by exact_mod_cast hdown) (by exact_mod_cast hup)

/-- A number of seconds that a few roundings have made of a number of nanoseconds is read as that
number, if it is not too large for so many roundings. -/
theorem ofMagnitude?_of_approximates (h : a.Approximates k ((n : ℚ) / 1000000000))
    (hk : 2 * (((1 + unitRoundoff) ^ k - 1) * n) < 1) (hn : n < UInt64.size * 1000000000) :
    ∃ d, ofMagnitude? a = some d ∧ d.nanos = n := by
  apply ofMagnitude?_of_near hn
  have hnear := h.toWithin.near (by positivity)
  have hscaled : (a.value - n / 1000000000) * 1000000000 = a.value * 1000000000 - n := by ring
  rw [← hscaled, abs_mul, abs_of_pos (by norm_num : (0 : ℚ) < 1000000000)]
  linarith

/-- What comes of a number of seconds is not less than a number of nanoseconds that these seconds
reach. -/
theorem le_nanos_of_ofMagnitude? {d : Duration} (h : ofMagnitude? a = some d)
    (hn : (n : ℚ) ≤ a.value * 1000000000) : n ≤ d.nanos := by
  have hU := Magnitude.unitsPerOne_cast_pos
  have hunits : (n * unitsPerOne : ℚ) ≤ a.units * 1000000000 := by
    rw [a.units_eq_value]
    have hscaled := mul_le_mul_of_nonneg_right hn hU.le
    linarith
  rw [(ofMagnitude?_eq_some_iff.1 h).2]
  exact le_divNearest Magnitude.unitsPerOne_pos (by exact_mod_cast hunits)

/-- The seconds of a span have been rounded twice: once for what is beyond the whole seconds, and
once for the sum. -/
theorem approximates_toSeconds (d : Duration) (hd : d.seconds < 2 ^ 53) :
    d.toSeconds.Approximates 2 ((d.nanos : ℚ) / 1000000000) := by
  have hsub : d.subsecond < 1000000000 := Nat.mod_lt _ (by decide)
  have hsplit : d.seconds * 1000000000 + d.subsecond = d.nanos := Nat.div_add_mod' _ _
  have hrest : (Magnitude.ofNat d.subsecond / .ofNat 1000000000).Approximates 1
      ((d.subsecond : ℚ) / 1000000000) := by
    have hbillion := @Magnitude.approximates_ofNat 1000000000 (by decide)
    apply (Magnitude.approximates_ofNat (by omega)).div hbillion (by norm_num) (by decide)
    exact isModerate_div (by omega) (by decide) (by decide)
  have hwhole : (Magnitude.ofNat d.seconds).Approximates 1 (d.seconds : ℚ) :=
    (Magnitude.approximates_ofNat hd).mono (by decide) (Nat.cast_nonneg _)
  have hsum : (d.seconds : ℚ) + d.subsecond / 1000000000 = (d.nanos : ℚ) / 1000000000 := by
    rw [← hsplit]
    push_cast
    ring
  rw [← hsum]
  apply hwhole.add hrest (by decide)
  rw [hsum]
  have hnanos : d.nanos ≤ 2 ^ 100 := by omega
  exact_mod_cast isModerate_div hnanos (d := 1000000000) (by decide) (by decide)

end Duration

end HealthRelay
