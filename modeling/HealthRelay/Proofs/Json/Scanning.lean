import HealthRelay.Json.Token
import HealthRelay.Json.Value
import HealthRelay.Proofs.Text.Digits

/-!
The scanner reads back strings and numerals as they are written.
-/
namespace HealthRelay.Json

variable {done : List Token} {codes : List Nat} {c : Char} {s rest : List Char} {d : NumeralDraft}
  {ds : List Char}

theorem hexValue?_digitChar {n : Nat} (h : n < 16) : hexValue? n.digitChar = some n := by
  have hall : ∀ n < 16, hexValue? n.digitChar = some n := by decide
  exact hall n h

/-- An escaped character is read as the character. -/
theorem scan_escape (c : Char) :
    scan (.text codes) done (escape c ++ rest) = scan (.text (c.toNat :: codes)) done rest := by
  unfold escape
  split
  · subst c; rfl
  split
  · subst c; rfl
  split
  · subst c; rfl
  split
  · subst c; rfl
  split
  · subst c; rfl
  split
  · subst c; rfl
  split
  · subst c; rfl
  split
  · rename_i hcontrol
    have hhigh : hexValue? (Nat.digitChar (c.toNat / 16 % 16)) = some (c.toNat / 16 % 16) :=
      hexValue?_digitChar (Nat.mod_lt _ (by decide))
    have hlow : hexValue? (Nat.digitChar (c.toNat % 16)) = some (c.toNat % 16) :=
      hexValue?_digitChar (Nat.mod_lt _ (by decide))
    have hzero : hexValue? '0' = some 0 := rfl
    have hcode : 16 * (c.toNat / 16 % 16) + c.toNat % 16 = c.toNat := by omega
    simp [scan, Mode.step, twoHexDigits, hhigh, hlow, hzero, hcode]
  · rename_i hquote hslash _ _ _ _ _ hcontrol
    simp [scan, Mode.step, hquote, hslash, hcontrol]

theorem scan_escapes (l : List Char) :
    scan (.text codes) done (l.flatMap escape ++ rest) =
      scan (.text ((l.map Char.toNat).reverse ++ codes)) done rest := by
  induction l generalizing codes with
  | nil => rfl
  | cons c l ih =>
    rw [List.flatMap_cons, List.append_assoc, scan_escape, ih]
    simp

/-- The codes of characters are those of a text: none of them is a surrogate. -/
theorem joinSurrogates_toNat (l : List Char) : joinSurrogates (l.map Char.toNat) = some l := by
  have hchar (c : Char) : ¬ (0xd800 ≤ c.toNat ∧ c.toNat < 0xdc00) ∧
      ¬ (0xdc00 ≤ c.toNat ∧ c.toNat < 0xe000) := by
    have hvalid : c.toNat < 0xd800 ∨ 0xdfff < c.toNat ∧ c.toNat < 0x110000 := c.valid
    omega
  induction l with
  | nil => rfl
  | cons c l ih =>
    obtain ⟨hhigh, hlow⟩ := hchar c
    cases l with
    | nil =>
      have hcode : ¬ (0xd800 ≤ c.toNat ∧ c.toNat < 0xe000) := by omega
      simp [joinSurrogates, hcode]
    | cons c' l =>
      simp only [List.map_cons] at ih ⊢
      rw [joinSurrogates, if_neg hhigh, if_neg hlow, ih]
      simp

/-- A string is read as it was before it was written. -/
theorem scan_renderString (t : String) :
    scan .start done (renderString t ++ rest) = scan .start (.string (some t) :: done) rest := by
  have hopen : scan .start done (renderString t ++ rest) =
      scan (.text []) done (t.toList.flatMap escape ++ '"' :: rest) := by
    rw [renderString, List.cons_append, List.cons_append, List.append_assoc]
    rfl
  have hclose : stringOf ((t.toList.map Char.toNat).reverse ++ []) = .string (some t) := by
    simp [stringOf, joinSurrogates_toNat]
  rw [hopen, scan_escapes, ← hclose]
  rfl

end HealthRelay.Json
