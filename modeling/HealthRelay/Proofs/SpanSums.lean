import HealthRelay.Proofs.RoundedSpans

/-!
Spans of time add up as their texts follow one another, so that the order of the segments of a text
makes no difference.

The segments of the whole are those of its parts, and a running sum becomes too long just if the
whole sum is.
-/
namespace HealthRelay.Duration

variable {number s : List Char} {parts parts' : List Segment} {p : Segment} {total d : Duration}
  {a b : String} {da db : Duration} {fault : DurationFault}

/-- Whether there is a sum, and which, does not depend on the order of the segments. -/
theorem foldlM_perm (hparts : ∀ p ∈ parts, p.IsSpelled) (h : parts'.Perm parts) :
    parts'.foldlM addSegment total = parts.foldlM addSegment total := by
  have hparts' : ∀ p ∈ parts', p.IsSpelled := fun p hp => hparts p (h.mem_iff.1 hp)
  have hok (d : Duration) :
      parts'.foldlM addSegment total = .ok d ↔ parts.foldlM addSegment total = .ok d := by
    simp only [foldlM_eq_ok_iff, h.mem_iff, (h.map Segment.nanos).sum_eq]
  cases hsum : parts.foldlM addSegment total with
  | ok d => exact (hok d).2 hsum
  | error fault =>
    cases hsum' : parts'.foldlM addSegment total with
    | ok d =>
      rw [(hok d).1 hsum'] at hsum
      cases hsum
    | error fault' => rw [fault_of_foldlM hparts hsum, fault_of_foldlM hparts' hsum']

theorem parse_flatMap (hne : parts ≠ []) (hparts : ∀ p ∈ parts, p.IsSpelled) :
    parse (String.ofList (parts.flatMap Segment.text)) = parts.foldlM addSegment zero := by
  have hparse := @parse_of_spelled parts [] [] hne hparts nofun nofun
  rwa [List.nil_append, List.append_nil] at hparse

theorem not_isBare_of_bare? (h : bare? s = none) (n : ℕ) : ¬ IsBare n s := by
  rintro ⟨ds, hform, hwhole⟩
  have hword : word? ds = some n := word?_eq_some_iff.2 hwhole
  have hsome : bare? s = ofNanos? n := by
    rcases hform with rfl | rfl
    · obtain ⟨c, rest, rfl⟩ := List.exists_cons_of_ne_nil hwhole.ne_nil
      have hsign : c ≠ '+' := by
        rintro rfl
        cases hwhole.digits '+' List.mem_cons_self
      simp [bare?, hsign, hword]
    · simp [bare?, hword]
  have hlt : n < UInt64.size * 1000000000 :=
    hwhole.fits.trans_le (Nat.le_mul_of_pos_right _ (by decide))
  rw [hsome, ofNanos?, dif_pos hlt] at h
  cases h

/-- A text without blanks around it is read as a span, and not because it is a bare number. -/
structure IsReadInUnits (s : String) (d : Duration) : Prop where
  trim_eq : Text.trim s.toList = s.toList
  not_isBare : ∀ n, ¬ IsBare n s.toList
  parse_eq : parse s = .ok d

namespace IsReadInUnits

theorem bare?_eq (h : IsReadInUnits a da) : bare? a.toList = none := by
  rw [Option.eq_none_iff_forall_ne_some]
  intro d hd
  exact h.not_isBare _ (isBare_of_bare? hd)

theorem segments_ne_nil (h : IsReadInUnits a da) : segments a.toList ≠ [] := by
  intro hnil
  have htext := text_segments a.toList
  rw [hnil] at htext
  have hparse := h.parse_eq
  simp only [parse, ← htext] at hparse
  cases hparse

theorem foldlM_eq (h : IsReadInUnits a da) :
    (segments a.toList).foldlM addSegment zero = .ok da := by
  have hparse := h.parse_eq
  simp only [parse, h.trim_eq, h.bare?_eq] at hparse
  split at hparse
  · cases hparse
  · exact hparse

theorem isSpelled (h : IsReadInUnits a da) : ∀ p ∈ segments a.toList, p.IsSpelled := by
  intro p hp
  obtain ⟨span, hspan⟩ := (foldlM_eq_ok_iff.1 h.foldlM_eq).1 p hp
  exact isSpelled_of_duration (isNumeric_of_mem_segments hp) hspan

/-- Where one text ends and the other begins, there is a cut between segments. -/
theorem parse_append (ha : IsReadInUnits a da) (hb : IsReadInUnits b db) :
    parse (a ++ b) = (segments b.toList).foldlM addSegment da := by
  have hspelled : ∀ p ∈ segments a.toList ++ segments b.toList, p.IsSpelled :=
    List.forall_mem_append.2 ⟨ha.isSpelled, hb.isSpelled⟩
  have hne : segments a.toList ++ segments b.toList ≠ [] :=
    List.append_ne_nil_of_left_ne_nil ha.segments_ne_nil _
  have htext : a ++ b =
      String.ofList ((segments a.toList ++ segments b.toList).flatMap Segment.text) := by
    rw [List.flatMap_append, text_segments, text_segments, String.ofList_append,
      String.ofList_toList, String.ofList_toList]
  rw [htext, parse_flatMap hne hspelled, List.foldlM_append, ha.foldlM_eq]
  rfl

end IsReadInUnits

/-- Two texts that are read as spans, and neither of them as a bare number, are read one after the
other as the sum of the spans, whatever fractions there are in them, or are out of range if there is
no such span. The segments of a text are read as the same span in any order. -/
theorem spans_add_up (ha : IsReadInUnits a da) (hb : IsReadInUnits b db) :
    (∀ d : Duration, d.nanos = da.nanos + db.nanos → parse (a ++ b) = .ok d) ∧
    (UInt64.size * 1000000000 ≤ da.nanos + db.nanos → parse (a ++ b) = .error .outOfRange) ∧
    (∀ parts : List Segment, parts.Perm (segments a.toList) →
      parse (String.ofList (parts.flatMap Segment.text)) = .ok da) := by
  obtain ⟨hspans, hdb⟩ := foldlM_eq_ok_iff.1 hb.foldlM_eq
  have hzero : zero.nanos = 0 := rfl
  rw [hzero, Nat.zero_add] at hdb
  have hsum (d : Duration) : parse (a ++ b) = .ok d ↔ d.nanos = da.nanos + db.nanos := by
    rw [ha.parse_append hb, foldlM_eq_ok_iff, and_iff_right hspans, hdb]
  refine ⟨fun d => (hsum d).2, ?_, ?_⟩
  · intro hlarge
    cases hparse : parse (a ++ b) with
    | ok d =>
      have hlt := d.nanos_lt
      have hd := (hsum d).1 hparse
      omega
    | error fault =>
      rw [ha.parse_append hb] at hparse
      rw [fault_of_foldlM hb.isSpelled hparse]
  · intro parts hperm
    have hspelled : ∀ p ∈ parts, p.IsSpelled := fun p hp => ha.isSpelled p (hperm.mem_iff.1 hp)
    have hne : parts ≠ [] := by
      rintro rfl
      exact ha.segments_ne_nil hperm.nil_eq.symm
    rw [parse_flatMap hne hspelled, foldlM_perm ha.isSpelled hperm, ha.foldlM_eq]

/-- Half an hour and a fraction of a second, and then a fraction of an hour. -/
theorem spans_add_up_of_fractions :
    IsReadInUnits "30m0.25s" ⟨1800250000000, by decide⟩ ∧
      IsReadInUnits "1.5h" ⟨5400000000000, by decide⟩ ∧
      parse "30m0.25s1.5h" = .ok ⟨7200250000000, by decide⟩ ∧
      parse "0.25s30m" = .ok ⟨1800250000000, by decide⟩ := by
  have ha : IsReadInUnits "30m0.25s" ⟨1800250000000, by decide⟩ :=
    ⟨by decide, not_isBare_of_bare? (by decide), by decide +kernel⟩
  have hb : IsReadInUnits "1.5h" ⟨5400000000000, by decide⟩ :=
    ⟨by decide, not_isBare_of_bare? (by decide), by decide +kernel⟩
  obtain ⟨hsum, -, horder⟩ := spans_add_up ha hb
  refine ⟨ha, hb, hsum _ rfl, ?_⟩
  exact horder [⟨"0.25".toList, ['s']⟩, ⟨"30".toList, ['m']⟩] (by decide)

/-- Two spans that are each short enough are not so together. -/
example : parse "10000000000000000000.0s10000000000000000000.0s" = .error .outOfRange := by
  decide +kernel

end HealthRelay.Duration
