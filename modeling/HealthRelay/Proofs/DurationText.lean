import HealthRelay.Duration.Reading
import HealthRelay.Proofs.Text.Digits

/-!
A span of time is read back as it is written.
-/
namespace HealthRelay.Duration

variable {number unit rest : List Char}

theorem isNumeric_of_isDigit {c : Char} (h : c.isDigit = true) : isNumeric c = true := by
  simp [isNumeric, h]

/-- A text that begins with a number has a first segment with a number. -/
theorem segments_of_numeric {c : Char} (hc : isNumeric c = true) (s : List Char) :
    ∃ next others, segments (c :: s) = next :: others ∧ next.number.isEmpty = false := by
  rw [segments]
  cases segments s with
  | nil => exact ⟨⟨[c], []⟩, [], by simp [hc], rfl⟩
  | cons next others => exact ⟨⟨c :: next.number, next.unit⟩, others, by simp [hc], rfl⟩

/-- A unit is a segment that lacks its number, and what follows is cut as if it stood alone. -/
theorem segments_unit (hne : unit ≠ []) (hunit : ∀ c ∈ unit, isNumeric c = false)
    (hrest : ∀ c ∈ rest.head?, isNumeric c = true) :
    segments (unit ++ rest) = ⟨[], unit⟩ :: segments rest := by
  induction unit with
  | nil => exact absurd rfl hne
  | cons c unit ih =>
    have hc : isNumeric c = false := hunit c List.mem_cons_self
    cases unit with
    | nil =>
      rw [List.singleton_append, segments]
      cases rest with
      | nil => simp [segments, hc]
      | cons d rest =>
        obtain ⟨next, others, heq, hnumber⟩ := segments_of_numeric (hrest d rfl) rest
        simp [heq, hc, hnumber]
    | cons d unit =>
      have hnext := ih (by simp) fun e he => hunit e (List.mem_cons_of_mem _ he)
      rw [List.cons_append, segments, hnext]
      simp [hc]

/-- A number and its unit are a segment, and what follows is cut as if it stood alone. -/
theorem segments_number_unit (hnumber : ∀ c ∈ number, isNumeric c = true) (hne : unit ≠ [])
    (hunit : ∀ c ∈ unit, isNumeric c = false) (hrest : ∀ c ∈ rest.head?, isNumeric c = true) :
    segments (number ++ (unit ++ rest)) = ⟨number, unit⟩ :: segments rest := by
  induction number with
  | nil => exact segments_unit hne hunit hrest
  | cons c number ih =>
    have hnext := ih fun d hd => hnumber d (List.mem_cons_of_mem _ hd)
    rw [List.cons_append, segments, hnext]
    simp [hnumber c List.mem_cons_self]

/-- The units, with their nanoseconds. -/
def units : List (List Char × Nat) :=
  [(['n', 's'], 1), (['u', 's'], 1000), (['µ', 's'], 1000), (['m', 's'], 1000000),
    (['s'], 1000000000), (['m'], 60 * 1000000000), (['h'], 3600 * 1000000000)]

theorem unitNanos?_eq_some_iff {scale : Nat} :
    unitNanos? unit = some scale ↔ (unit, scale) ∈ units := by
  constructor
  · intro h
    unfold unitNanos? at h
    unfold units
    grind
  · intro h
    simp only [units, List.mem_cons, List.not_mem_nil, or_false, Prod.mk.injEq] at h
    rcases h with ⟨rfl, rfl⟩ | ⟨rfl, rfl⟩ | ⟨rfl, rfl⟩ | ⟨rfl, rfl⟩ | ⟨rfl, rfl⟩ | ⟨rfl, rfl⟩ |
      ⟨rfl, rfl⟩ <;> rfl

/-- Units are made of letters, and none is worth nothing. -/
theorem unit_of_unitNanos? {scale : Nat} (h : unitNanos? unit = some scale) :
    0 < scale ∧ unit ≠ [] ∧ ∀ c ∈ unit, isNumeric c = false ∧ Text.isBlank c = false := by
  have hall : ∀ u ∈ units,
      0 < u.2 ∧ u.1 ≠ [] ∧ ∀ c ∈ u.1, isNumeric c = false ∧ Text.isBlank c = false := by
    simp [units, isNumeric, Text.isBlank]
  exact hall (unit, scale) (unitNanos?_eq_some_iff.1 h)

/-- A text with anything but digits in it is no bare number. -/
theorem bare?_eq_none {s : List Char} (hhead : s.head? ≠ some '+')
    (h : ∃ c ∈ s, c.isDigit = false) : bare? s = none := by
  have hword : word? s = none := by
    obtain ⟨c, hmem, hc⟩ := h
    have hall : s.all Char.isDigit = false := by
      simpa using ⟨c, hmem, hc⟩
    simp [word?, hall]
  unfold bare?
  split
  · simp at hhead
  · simp [hword]

theorem word?_toDigits {n : Nat} (h : n < UInt64.size) : word? (Nat.toDigits 10 n) = some n := by
  have hall : (Nat.toDigits 10 n).all Char.isDigit = true := by
    simpa using fun c hc => Text.isDigit_of_mem_toDigits hc
  simp [word?, hall, h]

/-- The span of a whole number and a unit is their product, if it fits a 64-bit word. -/
theorem duration_of_word {n scale : Nat} (hword : word? number = some n)
    (hunit : unitNanos? unit = some scale) :
    Segment.duration ⟨number, unit⟩ =
      if n * scale < UInt64.size then (ofNanos? (n * scale)).elim (.error .outOfRange) .ok
      else .error .outOfRange := by
  have hunit_ne : unit ≠ [] := (unit_of_unitNanos? hunit).2.1
  have hnumber_ne : number ≠ [] := by
    rintro rfl
    cases hword
  simp [Segment.duration, hunit_ne, hnumber_ne, hunit, hword]

/-- The product is divided and rounded in binary64. -/
theorem duration_of_decimal {scale : Nat} {x : Magnitude} (hword : word? number = none)
    (hdecimal : decimal? number = some x) (hunit : unitNanos? unit = some scale) :
    Segment.duration ⟨number, unit⟩ =
      (ofMagnitude? (x * .ofNat scale / .ofNat 1000000000)).elim (.error .outOfRange) .ok := by
  have hunit_ne : unit ≠ [] := (unit_of_unitNanos? hunit).2.1
  have hnumber_ne : number ≠ [] := by
    rintro rfl
    cases hdecimal
  simp [Segment.duration, hunit_ne, hnumber_ne, hunit, hword, hdecimal]

theorem duration_of_whole {n scale : Nat} {d : Duration} (hunit : unitNanos? unit = some scale)
    (hd : d.nanos = n * scale) (hlt : d.nanos < UInt64.size) :
    Segment.duration ⟨Nat.toDigits 10 n, unit⟩ = .ok d := by
  have hscale : 0 < scale := (unit_of_unitNanos? hunit).1
  have hword : word? (Nat.toDigits 10 n) = some n := by
    apply word?_toDigits
    have hle : n * 1 ≤ n * scale := Nat.mul_le_mul_left n hscale
    omega
  rw [duration_of_word hword hunit, ← hd, if_pos hlt, ofNanos?_nanos, Option.elim_some]

/-- A sum that begins with a span is that span. -/
theorem addSegment_zero {segment : Segment} {d : Duration} (h : segment.duration = .ok d) :
    addSegment zero segment = .ok d := by
  have hadd : zero.add? d = some d := by
    rw [add?, zero, Nat.zero_add, ofNanos?_nanos]
  rw [addSegment, h]
  simp [hadd, bind, Except.bind]

/-- A whole number with a unit is no bare number. -/
theorem bare?_number_unit {n scale : Nat} (hunit : unitNanos? unit = some scale) :
    bare? (Nat.toDigits 10 n ++ unit) = none := by
  obtain ⟨-, hne, hletters⟩ := unit_of_unitNanos? hunit
  apply bare?_eq_none
  · obtain ⟨c, ds, heq⟩ := List.exists_cons_of_ne_nil (@Nat.toDigits_ne_nil n 10)
    have hc : c.isDigit = true := Text.isDigit_of_mem_toDigits (heq ▸ List.mem_cons_self)
    rw [heq]
    intro hplus
    obtain rfl := Option.some.inj hplus
    cases hc
  · obtain ⟨c, hc⟩ := List.exists_mem_of_ne_nil unit hne
    have hnumeric : isNumeric c = false := (hletters c hc).1
    rw [isNumeric, Bool.or_eq_false_iff] at hnumeric
    exact ⟨c, List.mem_append_right _ hc, hnumeric.1⟩

/-- A whole number and a unit are read as their product, if it fits a 64-bit word. -/
theorem parse_of_toList {s : String} {n scale : Nat} {d : Duration}
    (hs : s.toList = Nat.toDigits 10 n ++ unit) (hunit : unitNanos? unit = some scale)
    (hd : d.nanos = n * scale) (hlt : d.nanos < UInt64.size) : parse s = .ok d := by
  obtain ⟨-, hne, hletters⟩ := unit_of_unitNanos? hunit
  have htrim : Text.trim s.toList = Nat.toDigits 10 n ++ unit := by
    rw [hs]
    apply Text.trim_eq_self
    intro c hc
    rcases List.mem_append.1 hc with hc | hc
    · exact Text.isBlank_of_isDigit (Text.isDigit_of_mem_toDigits hc)
    · exact (hletters c hc).2
  have hsegments : segments (Nat.toDigits 10 n ++ unit) = [⟨Nat.toDigits 10 n, unit⟩] := by
    have hcut := @segments_number_unit (Nat.toDigits 10 n) unit []
      (fun c hc => isNumeric_of_isDigit (Text.isDigit_of_mem_toDigits hc)) hne
      (fun c hc => (hletters c hc).1) (by simp)
    rwa [List.append_nil] at hcut
  rw [parse, htrim, bare?_number_unit hunit, hsegments]
  simp [addSegment_zero (duration_of_whole hunit hd hlt), hne]

/-- A span that fits a 64-bit word of nanoseconds is read back as it is written. -/
theorem parse_of_text {d : Duration} (h : d.nanos < UInt64.size) : parse d.text = .ok d := by
  unfold text
  split
  · rename_i hsub
    have hd : d.nanos = d.seconds * 1000000000 := by
      simp only [seconds, subsecond] at hsub ⊢
      omega
    exact @parse_of_toList ['s'] _ d.seconds 1000000000 d (by simp) rfl hd h
  split
  · rename_i hsub
    have hd : d.nanos = d.millis * 1000000 := by
      simp only [millis, subsecond] at hsub ⊢
      omega
    exact @parse_of_toList ['m', 's'] _ d.millis 1000000 d (by simp) rfl hd h
  · exact @parse_of_toList ['n', 's'] _ d.nanos 1 d (by simp) rfl (Nat.mul_one _).symm h

end HealthRelay.Duration
