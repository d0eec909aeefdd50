import HealthRelay.Text.Blank
import HealthRelay.Text.Digits
import Mathlib.Algebra.Group.Nat.Defs

/-!
The decimal digits of a number, as they are written and as they are read.
-/
namespace HealthRelay.Text

variable {c : Char} {ds rest : List Char} {m n width : Nat}

theorem digitsValue_eq (ds : List Char) : digitsValue ds = Nat.ofDigitChars 10 ds 0 := rfl

/-- The digits written for a number are read as that number. -/
@[simp] theorem digitsValue_toDigits (n : Nat) : digitsValue (Nat.toDigits 10 n) = n := by
  rw [digitsValue_eq, Nat.ofDigitChars_ten_toDigits]

theorem isDigit_of_mem_toDigits (h : c ∈ Nat.toDigits 10 n) : c.isDigit = true :=
  Nat.isDigit_of_mem_toDigits (by decide) (by decide) h

/-- A number that is not zero is written without zeros before it. -/
theorem toDigits_eq_cons (h : 0 < n) :
    ∃ c ds, Nat.toDigits 10 n = c :: ds ∧ c.isDigit = true ∧ c ≠ '0' ∧
      ∀ d ∈ ds, d.isDigit = true := by
  induction n using Nat.base_induction 10 (by decide) with
  | single m hm =>
    refine ⟨m.digitChar, [], Nat.toDigits_of_lt_base hm, ?_, ?_, by simp⟩
    · apply @isDigit_of_mem_toDigits _ m
      simp [Nat.toDigits_of_lt_base hm]
    · simpa using Nat.ne_of_gt h
  | digit m k hk hm ih =>
    obtain ⟨c, ds, heq, hc, hzero, hds⟩ := ih hm
    refine ⟨c, ds ++ [k.digitChar], ?_, hc, hzero, ?_⟩
    · rw [← Nat.toDigits_append_toDigits (by decide) hm hk, heq, Nat.toDigits_of_lt_base hk]
      rfl
    · intro d hd
      rcases List.mem_append.1 hd with hd | hd
      · exact hds d hd
      · apply @isDigit_of_mem_toDigits _ k
        rwa [Nat.toDigits_of_lt_base hk]

/-- Reading more digits never makes a number less. -/
theorem le_ofDigitChars (ds : List Char) (n : Nat) : n ≤ Nat.ofDigitChars 10 ds n := by
  induction ds generalizing n with
  | nil => simp
  | cons c ds ih =>
    rw [Nat.ofDigitChars_cons]
    have hrest := ih (10 * n + (c.toNat - '0'.toNat))
    omega

theorem toNat_of_isDigit (h : c.isDigit = true) : 48 ≤ c.toNat ∧ c.toNat ≤ 57 := by
  simpa [Char.isDigit, UInt32.le_iff_toNat_le] using h

theorem isBlank_of_isDigit (h : c.isDigit = true) : isBlank c = false := by
  have hrange := toNat_of_isDigit h
  simp only [isBlank, Bool.or_eq_false_iff, Bool.and_eq_false_iff, decide_eq_false_iff_not,
    beq_eq_false_iff_ne]
  omega

/-- Nothing is taken away where nothing is blank. -/
theorem trim_eq_self {s : List Char} (h : ∀ c ∈ s, isBlank c = false) : trim s = s := by
  have hself {l : List Char} (hl : ∀ c ∈ l, isBlank c = false) : dropBlank l = l := by
    cases l with
    | nil => rfl
    | cons c l => simp [dropBlank, hl c List.mem_cons_self]
  rw [trim, hself h, hself (by simpa using h), List.reverse_reverse]

/-- Zeros before the digits of a number leave it as it is. -/
@[simp] theorem digitsValue_padded (width n : Nat) : digitsValue (padded width n) = n := by
  rw [padded, digitsValue_eq, Nat.ofDigitChars_append, Nat.ofDigitChars_replicate_zero,
    Nat.mul_zero, ← digitsValue_eq, digitsValue_toDigits]

theorem isDigit_of_mem_padded (h : c ∈ padded width n) : c.isDigit = true := by
  rcases List.mem_append.1 h with h | h
  · rw [List.eq_of_mem_replicate h]
    rfl
  · exact isDigit_of_mem_toDigits h

theorem padded_ne_nil (width n : Nat) : padded width n ≠ [] := by
  simp [padded]

theorem length_padded (hwidth : 0 < width) (h : n < 10 ^ width) :
    (padded width n).length = width := by
  have hle : (Nat.toDigits 10 n).length ≤ width :=
    (Nat.length_toDigits_le_iff (by decide) hwidth).2 h
  simp only [padded, List.length_append, List.length_replicate]
  omega

/-- Nothing is dropped before a character that is not blank. -/
theorem dropBlank_cons (h : isBlank c = false) : dropBlank (c :: rest) = c :: rest := by
  simp [dropBlank, h]

theorem takeWhile_isDigit (hds : ∀ c ∈ ds, c.isDigit = true)
    (hrest : ∀ c ∈ rest.head?, c.isDigit = false) : (ds ++ rest).takeWhile Char.isDigit = ds := by
  rw [List.takeWhile_append_of_pos hds]
  cases rest with
  | nil => simp
  | cons c rest => simp [hrest c rfl]

end HealthRelay.Text
