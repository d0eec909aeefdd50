import Mathlib.Data.List.Basic

/-!
The order of texts by characters is the order of their bytes in UTF-8.

A character with fewer bytes begins with a smaller byte, and of two with as many bytes the smaller
one has the smaller byte where they differ first.
-/
namespace HealthRelay.Text

variable {c d : Char} {m n : ℕ} {s t : String}

/-- The bytes of a text in UTF-8. -/
def utf8 (s : String) : List UInt8 := s.toByteArray.data.toList

theorem utf8_eq (s : String) : utf8 s = s.toList.flatMap String.utf8EncodeChar := by
  rw [utf8, ← @String.ofList_toList s, String.toByteArray_ofList, String.toList_ofList]
  exact List.toList_data_toByteArray

theorem ofNat_lt_ofNat_iff (hm : m < 256) (hn : n < 256) :
    UInt8.ofNat m < UInt8.ofNat n ↔ m < n := by
  rw [UInt8.lt_iff_toNat_lt, UInt8.toNat_ofNat_of_lt' hm, UInt8.toNat_ofNat_of_lt' hn]

theorem ofNat_eq_ofNat_iff (hm : m < 256) (hn : n < 256) :
    UInt8.ofNat m = UInt8.ofNat n ↔ m = n := by
  rw [← UInt8.toNat_inj, UInt8.toNat_ofNat_of_lt' hm, UInt8.toNat_ofNat_of_lt' hn]

/-- The bytes of a smaller character are smaller, whatever bytes follow. -/
theorem utf8EncodeChar_append_lt (h : c < d) (xs ys : List UInt8) :
    String.utf8EncodeChar c ++ xs < String.utf8EncodeChar d ++ ys := by
  have hlt : c.val.toNat < d.val.toNat := h
  have hd : d.val.toNat < 0x110000 := by
    rcases d.valid with hd | ⟨-, hd⟩
    · exact Nat.lt_trans hd (by decide)
    · exact hd
  unfold String.utf8EncodeChar
  generalize c.val.toNat = m at hlt
  generalize d.val.toNat = n at hlt hd
  dsimp only
  -- One case for each pair of lengths.
  split_ifs <;>
    simp (disch := omega) only [List.cons_append, List.nil_append, List.cons_lt_cons_iff,
      ofNat_lt_ofNat_iff, ofNat_eq_ofNat_iff]
  any_goals omega
  -- Four bytes each: the first byte decides, or else the second, or else the third.
  rcases Nat.lt_or_ge (m / 262144) (n / 262144) with h1 | h1
  · omega
  rcases Nat.lt_or_ge (m / 4096) (n / 4096) with h2 | h2
  · omega
  rcases Nat.lt_or_ge (m / 64) (n / 64) with h3 | h3 <;> omega

/-- The induction is on the place where the texts differ first. -/
theorem flatMap_utf8EncodeChar_lt {cs ds : List Char} (h : cs < ds) :
    cs.flatMap String.utf8EncodeChar < ds.flatMap String.utf8EncodeChar := by
  induction h with
  | nil =>
    rw [List.flatMap_nil, List.flatMap_cons]
    obtain ⟨b, bs, hb⟩ := List.exists_cons_of_ne_nil (@String.utf8EncodeChar_ne_nil _)
    rw [hb]
    exact List.nil_lt_cons b _
  | rel hlt => exact utf8EncodeChar_append_lt hlt _ _
  | cons _ ih => exact List.append_left_lt ih

theorem utf8_lt_utf8 (h : s < t) : utf8 s < utf8 t := by
  rw [utf8_eq, utf8_eq]
  exact flatMap_utf8EncodeChar_lt h

end HealthRelay.Text
