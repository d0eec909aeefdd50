import HealthRelay.Backoff
import HealthRelay.Proofs.Rounding

/-!
The delays before attempts to connect again: never more than their bound, and none shorter than the
one before it when the multiplier is at least one.
-/
namespace HealthRelay

variable {k m n : Nat}

namespace Magnitude

variable {a b r s : Magnitude}

protected theorem le_trans {c : Magnitude} (hab : a ≤ b) (hbc : b ≤ c) : a ≤ c :=
  Nat.le_trans (m := b.rank) hab hbc

/-- Square and multiply, as long as no sign and no missing number comes in. -/
def powDigits (r a : Magnitude) : Nat → Nat → Magnitude
  | 0, _ => r
  | k + 1, n => powDigits (if n % 2 = 1 then r * a else r) (a * a) k (n / 2)

def pow (a : Magnitude) (n : Nat) : Magnitude := powDigits one a (n.log2 + 1) n

@[simp] theorem powDigits_zero (r a : Magnitude) (k : Nat) : powDigits r a k 0 = r := by
  induction k generalizing a with
  | zero => rfl
  | succ k ih => simp [powDigits, ih]

/-- Leading zeros of the exponent change nothing. -/
theorem powDigits_eq_of_lt {j : Nat} (hk : n < 2 ^ k) (hj : n < 2 ^ j) :
    powDigits r a k n = powDigits r a j n := by
  induction k generalizing r a n j with
  | zero =>
    obtain rfl : n = 0 := by omega
    simp
  | succ k ih =>
    cases j with
    | zero =>
      obtain rfl : n = 0 := by omega
      simp
    | succ j =>
      rw [Nat.pow_succ] at hk hj
      simp only [powDigits]
      exact ih (by omega) (by omega)

theorem powDigits_le_powDigits (h : r ≤ s) (a : Magnitude) (k n : Nat) :
    powDigits r a k n ≤ powDigits s a k n := by
  induction k generalizing r s a n with
  | zero => exact h
  | succ k ih =>
    simp only [powDigits]
    split
    · exact ih (Magnitude.mul_le_mul h (Nat.le_refl _)) _ _
    · exact ih h _ _

theorem one_le_mul (ha : one ≤ a) (hb : one ≤ b) : one ≤ a * b :=
  Magnitude.le_trans ha (le_mul_of_one_le a hb)

theorem one_le_powDigits (hr : one ≤ r) (ha : one ≤ a) (k n : Nat) :
    one ≤ powDigits r a k n := by
  induction k generalizing r a n with
  | zero => exact hr
  | succ k ih =>
    simp only [powDigits]
    split
    · exact ih (one_le_mul hr ha) (one_le_mul ha ha) _
    · exact ih hr (one_le_mul ha ha) _

/-- Where an exponent ends in ones, the next one ends in as many zeros with a one before them: what
the former multiplies on the way is at most the square that the latter takes instead. -/
theorem powDigits_le_succ (ha : one ≤ a) (hs : s ≤ a) (hn : n + 1 < 2 ^ k) :
    powDigits s a k n ≤ powDigits one a k (n + 1) := by
  induction k generalizing s a n with
  | zero => omega
  | succ k ih =>
    rw [Nat.pow_succ] at hn
    simp only [powDigits]
    by_cases hodd : n % 2 = 1
    · -- A carry: the next exponent has a zero here.
      have hcarry : (n + 1) / 2 = n / 2 + 1 := by omega
      rw [if_pos hodd, if_neg (by omega), hcarry]
      exact ih (one_le_mul ha ha) (Magnitude.mul_le_mul hs (Nat.le_refl _)) (by omega)
    · have hlast : (n + 1) / 2 = n / 2 := by omega
      rw [if_neg hodd, if_pos (by omega), hlast, Magnitude.one_mul]
      exact powDigits_le_powDigits hs _ _ _

theorem pow_le_succ (ha : one ≤ a) (n : Nat) : a.pow n ≤ a.pow (n + 1) := by
  have hlog : n < 2 ^ (n.log2 + 1) := Nat.lt_log2_self
  have hnext : n + 1 < 2 ^ ((n + 1).log2 + 1) := Nat.lt_log2_self
  rw [pow, powDigits_eq_of_lt hlog (Nat.lt_of_succ_lt hnext)]
  exact powDigits_le_succ ha ha hnext

/-- A greater exponent never gives less, although the products on the way are others, and each is
rounded. -/
theorem pow_le_pow (ha : one ≤ a) (h : m ≤ n) : a.pow m ≤ a.pow n :=
  monotone_nat_of_le_succ (f := fun n => (a.pow n).rank) (pow_le_succ ha) h

theorem one_le_pow (ha : one ≤ a) (n : Nat) : one ≤ a.pow n :=
  one_le_powDigits (Nat.le_refl _) ha _ _

end Magnitude

namespace Binary64

variable {a b r : Magnitude}

theorem signed_mul (a b : Magnitude) :
    (.signed false a * .signed false b : Binary64) =
      if (a.isInfinite && b.rank == 0) || (b.isInfinite && a.rank == 0) then .nan
      else .signed false (a * b) := rfl

theorem rank_ne_zero (h : Magnitude.one ≤ a) : a.rank ≠ 0 := by
  have hone : Magnitude.one.rank ≠ 0 := by decide +kernel
  have hle : Magnitude.one.rank ≤ a.rank := h
  omega

theorem signed_mul_of_one_le (ha : .one ≤ a) (hb : .one ≤ b) :
    (.signed false a * .signed false b : Binary64) = .signed false (a * b) := by
  simp [signed_mul, rank_ne_zero ha, rank_ne_zero hb]

theorem powDigits_signed (hr : .one ≤ r) (ha : .one ≤ a) (k n : Nat) :
    powDigits (.signed false r) (.signed false a) k n = .signed false (r.powDigits a k n) := by
  induction k generalizing r a n with
  | zero => rfl
  | succ k ih =>
    simp only [powDigits, Magnitude.powDigits, signed_mul_of_one_le ha ha]
    split
    · rw [signed_mul_of_one_le hr ha]
      exact ih (Magnitude.one_le_mul hr ha) (Magnitude.one_le_mul ha ha) _
    · exact ih hr (Magnitude.one_le_mul ha ha) _

theorem pow_signed (ha : .one ≤ a) (n : Nat) :
    pow (.signed false a) n = .signed false (a.pow n) :=
  powDigits_signed (Nat.le_refl _) ha _ _

end Binary64

namespace Duration

variable {d e bound : Duration}

protected theorem le_refl (d : Duration) : d ≤ d := Nat.le_refl d.nanos

theorem min_le_right (d bound : Duration) : min d bound ≤ bound := by
  change (if d ≤ bound then d else bound) ≤ bound
  split
  · assumption
  · exact Duration.le_refl bound

theorem min_le_min (h : d ≤ e) (bound : Duration) : min d bound ≤ min e bound := by
  change (if d ≤ bound then d else bound) ≤ (if e ≤ bound then e else bound)
  by_cases he : e ≤ bound
  · have hd : d ≤ bound := Nat.le_trans (m := e.nanos) h he
    rwa [if_pos hd, if_pos he]
  · rw [if_neg he]
    exact min_le_right d bound

theorem ofMagnitude?_eq_some_iff {a : Magnitude} :
    ofMagnitude? a = some d ↔
      a.units < UInt64.size * unitsPerOne ∧
        d.nanos = divNearest (a.units * 1000000000) unitsPerOne := by
  rw [ofMagnitude?]
  generalize UInt64.size * unitsPerOne = limit
  generalize divNearest (a.units * 1000000000) unitsPerOne = nanos
  split
  · next hlt => simp [hlt, ofNanos?_eq_some_iff]
  · next hlt => simp [hlt]

theorem ofBinary64?_signed (a : Magnitude) :
    ofBinary64? (.signed false a) = ofMagnitude? a := by
  simp [ofBinary64?]

theorem exists_nanos_eq (h : n ≤ e.nanos) : ∃ d : Duration, d.nanos = n :=
  ⟨⟨n, h.trans_lt e.nanos_lt⟩, rfl⟩

/-- A shorter time is a span of time whenever a longer one is, and is no longer a span. -/
theorem ofMagnitude?_of_le {a b : Magnitude} (h : a ≤ b) (hb : ofMagnitude? b = some e) :
    ∃ d, ofMagnitude? a = some d ∧ d ≤ e := by
  rw [ofMagnitude?_eq_some_iff] at hb
  obtain ⟨hshort, hnanos⟩ := hb
  have hunits : a.units ≤ b.units := Magnitude.units_le_units.2 h
  have hle : divNearest (a.units * 1000000000) unitsPerOne ≤ e.nanos := by
    rw [hnanos]
    exact divNearest_le_divNearest (Nat.mul_le_mul_right 1000000000 hunits) unitsPerOne
  obtain ⟨d, hd⟩ := exists_nanos_eq hle
  refine ⟨d, ofMagnitude?_eq_some_iff.2 ⟨hunits.trans_lt hshort, hd⟩, ?_⟩
  change d.nanos ≤ e.nanos
  rwa [hd]

end Duration

namespace RetryPolicy

variable {p : RetryPolicy} {a b : Magnitude}

/-- So much of a delay as is within the bound. -/
def cap (p : RetryPolicy) (d : Option Duration) : Duration :=
  d.elim p.maxBackoff fun d => min d p.maxBackoff

theorem delay_eq (p : RetryPolicy) (n : Nat) :
    p.delay n = p.cap (Duration.ofBinary64? (p.growth n)) := by
  rw [delay]
  cases Duration.ofBinary64? (p.growth n) <;> rfl

theorem cap_le (p : RetryPolicy) (d : Option Duration) : p.cap d ≤ p.maxBackoff := by
  cases d with
  | none => exact Duration.le_refl _
  | some d => exact Duration.min_le_right _ _

theorem cap_le_cap (h : a ≤ b) :
    p.cap (Duration.ofMagnitude? a) ≤ p.cap (Duration.ofMagnitude? b) := by
  cases hb : Duration.ofMagnitude? b with
  | none => exact p.cap_le _
  | some e =>
    obtain ⟨d, ha, hle⟩ := Duration.ofMagnitude?_of_le h hb
    rw [ha]
    exact Duration.min_le_min hle _

/-- Whatever the policy, a delay is within its bound. -/
theorem delay_le_maxBackoff (p : RetryPolicy) (n : Nat) : p.delay n ≤ p.maxBackoff :=
  p.delay_eq n ▸ p.cap_le _

/-- With a multiplier of at least one the delay is the first one times a power, unless that is zero
times infinity. -/
theorem delay_of_multiplier (hmultiplier : p.multiplier = .signed false a) (ha : .one ≤ a)
    (n : Nat) :
    let factor := a.pow (min n maxExponent)
    p.delay n =
      if factor.isInfinite && p.initialBackoff.toSeconds.rank == 0 then p.maxBackoff
      else p.cap (Duration.ofMagnitude? (p.initialBackoff.toSeconds * factor)) := by
  intro factor
  have hfactor : factor.rank ≠ 0 := Binary64.rank_ne_zero (Magnitude.one_le_pow ha _)
  have hgrowth : p.growth n =
      if factor.isInfinite && p.initialBackoff.toSeconds.rank == 0 then .nan
      else .signed false (p.initialBackoff.toSeconds * factor) := by
    rw [growth, hmultiplier, Binary64.pow_signed ha, Binary64.signed_mul]
    simp [factor, hfactor]
  rw [delay_eq, hgrowth]
  cases factor.isInfinite && p.initialBackoff.toSeconds.rank == 0 with
  | true => rfl
  | false => exact congrArg p.cap (Duration.ofBinary64?_signed _)

/-- With a multiplier of at least one a later attempt does not wait less. -/
theorem delay_le_delay (hp : p.multiplier.atLeastOne = true) (h : m ≤ n) :
    p.delay m ≤ p.delay n := by
  obtain ⟨a, hmultiplier, hunits⟩ := Binary64.atLeastOne_iff.1 hp
  have ha : .one ≤ a := by rwa [← Magnitude.units_le_units, Magnitude.units_one]
  have hpow : a.pow (min m maxExponent) ≤ a.pow (min n maxExponent) :=
    Magnitude.pow_le_pow ha (by omega)
  rw [delay_of_multiplier hmultiplier ha n]
  split
  · exact p.delay_le_maxBackoff m
  · next hfinite =>
    rw [delay_of_multiplier hmultiplier ha m, if_neg]
    · exact cap_le_cap (Magnitude.mul_le_mul (Nat.le_refl _) hpow)
    · intro hinfinite
      rw [Bool.and_eq_true_iff] at hinfinite
      exact hfinite (by simp [Magnitude.isInfinite_of_le hpow hinfinite.1, hinfinite.2])

end RetryPolicy

/-- No delay is longer than the bound, whatever the policy: also one whose multiplier is negative,
infinite or no number. When the multiplier is at least one, delays never get shorter from one
attempt to a later one, although each is computed anew and every product on the way is rounded. -/
theorem delays_bounded_and_growing (p : RetryPolicy) :
    (∀ attempt, p.delay attempt ≤ p.maxBackoff) ∧
    (p.multiplier.atLeastOne = true →
      ∀ earlier later, earlier ≤ later → p.delay earlier ≤ p.delay later) :=
  ⟨p.delay_le_maxBackoff, fun hp _ _ => RetryPolicy.delay_le_delay hp⟩

end HealthRelay
