import HealthRelay.Proofs.DurationText
import HealthRelay.Proofs.Json.Readers
import Mathlib.Algebra.GroupWithZero.Nat
import Mathlib.Data.List.TakeWhile

/-!
Which texts are spans of time: a bare number of nanoseconds, or numbers with their units one after
another, with blanks around the whole at most.
-/
namespace HealthRelay

namespace Text

variable {before body after s : List Char}

/-- Trimming takes away blanks at both ends. -/
theorem exists_blanks (s : List Char) :
    ∃ before after, s = before ++ trim s ++ after ∧ (∀ c ∈ before, isBlank c = true) ∧
      ∀ c ∈ after, isBlank c = true := by
  let rest := (dropBlank s).reverse
  have hrest : rest = rest.takeWhile isBlank ++ dropBlank rest :=
    List.takeWhile_append_dropWhile.symm
  refine ⟨s.takeWhile isBlank, (rest.takeWhile isBlank).reverse, ?_, ?_, ?_⟩
  · have hs : s = s.takeWhile isBlank ++ rest.reverse := by
      rw [List.reverse_reverse]
      exact List.takeWhile_append_dropWhile.symm
    rw [hrest, List.reverse_append] at hs
    rw [trim, List.append_assoc]
    exact hs
  · intro c hc
    exact List.mem_takeWhile_imp hc
  · intro c hc
    exact List.mem_takeWhile_imp (List.mem_reverse.1 hc)

theorem dropBlank_blanks (hbefore : ∀ c ∈ before, isBlank c = true) (hne : body ≠ [])
    (hbody : ∀ c ∈ body, isBlank c = false) (after : List Char) :
    dropBlank (before ++ (body ++ after)) = body ++ after := by
  obtain ⟨c, rest, rfl⟩ := List.exists_cons_of_ne_nil hne
  rw [dropBlank, List.dropWhile_append_of_pos hbefore]
  exact dropBlank_cons (hbody c List.mem_cons_self)

/-- Trimming takes away nothing else. -/
theorem trim_blanks (hbefore : ∀ c ∈ before, isBlank c = true) (hne : body ≠ [])
    (hbody : ∀ c ∈ body, isBlank c = false) (hafter : ∀ c ∈ after, isBlank c = true) :
    trim (before ++ body ++ after) = body := by
  have hafter' : ∀ c ∈ after.reverse, isBlank c = true := by simpa using hafter
  have hbody' : ∀ c ∈ body.reverse, isBlank c = false := by simpa using hbody
  have hne' : body.reverse ≠ [] := by simpa using hne
  have hback := dropBlank_blanks hafter' hne' hbody' []
  rw [List.append_nil] at hback
  rw [trim, List.append_assoc, dropBlank_blanks hbefore hne hbody, List.reverse_append, hback,
    List.reverse_reverse]

end Text

namespace Duration

/-- Digits, with a point among them at most. -/
structure IsNumber (number : List Char) : Prop where
  numeric : ∀ c ∈ number, c.isDigit = true ∨ c = '.'
  digit : ∃ c ∈ number, c.isDigit = true
  point : number.count '.' ≤ 1

/-- Digits of a number that fits a 64-bit word. -/
structure IsWhole (n : Nat) (ds : List Char) : Prop where
  ne_nil : ds ≠ []
  digits : ∀ c ∈ ds, c.isDigit = true
  value : Text.digitsValue ds = n
  fits : n < UInt64.size

/-- A number of nanoseconds without a unit; a plus sign may stand before it. -/
def IsBare (n : Nat) (body : List Char) : Prop :=
  ∃ ds, (body = ds ∨ body = '+' :: ds) ∧ IsWhole n ds

namespace Segment

/-- A segment as it stands in a text. -/
def text (p : Segment) : List Char := p.number ++ p.unit

/-- It has a number, and one of the units. -/
def IsSpelled (p : Segment) : Prop := IsNumber p.number ∧ ∃ scale, (p.unit, scale) ∈ units

end Segment

theorem text_segments (s : List Char) : (segments s).flatMap Segment.text = s := by
  induction s with
  | nil => rfl
  | cons c s ih =>
    rw [segments]
    cases h : segments s with
    | nil =>
      rw [h] at ih
      obtain rfl : [] = s := ih
      dsimp only
      split <;> rfl
    | cons next rest =>
      rw [h] at ih
      rw [← ih]
      dsimp only
      split
      · rfl
      split
      · next hempty =>
        obtain hnumber : next.number = [] := List.isEmpty_iff.1 hempty
        simp [Segment.text, hnumber]
      · simp [Segment.text]

theorem isNumeric_of_mem_segments {s : List Char} {p : Segment} (h : p ∈ segments s) :
    ∀ c ∈ p.number, isNumeric c = true := by
  induction s generalizing p with
  | nil => cases h
  | cons c s ih =>
    rw [segments] at h
    grind

theorem word?_eq_some_iff {ds : List Char} {n : Nat} : word? ds = some n ↔ IsWhole n ds := by
  constructor
  · intro h
    obtain ⟨⟨⟨hne, hdigits⟩, hfits⟩, rfl⟩ : ((ds ≠ [] ∧ ∀ c ∈ ds, c.isDigit = true) ∧
        Text.digitsValue ds < UInt64.size) ∧ Text.digitsValue ds = n := by
      simpa [word?] using h
    exact ⟨hne, hdigits, rfl, hfits⟩
  · rintro ⟨hne, hdigits, rfl, hfits⟩
    simpa [word?, hne, hfits] using hdigits

theorem ne_point_of_isDigit {c : Char} (h : c.isDigit = true) : c ≠ '.' := by
  rintro rfl
  cases h

theorem count_point_of_digits {ds : List Char} (h : ∀ c ∈ ds, c.isDigit = true) :
    ds.count '.' = 0 :=
  List.count_eq_zero.2 fun hmem => ne_point_of_isDigit (h '.' hmem) rfl

theorem IsWhole.isNumber {ds : List Char} {n : Nat} (h : IsWhole n ds) : IsNumber ds := by
  obtain ⟨c, hc⟩ := List.exists_mem_of_ne_nil ds h.ne_nil
  refine ⟨fun c hc => .inl (h.digits c hc), ⟨c, hc, h.digits c hc⟩, ?_⟩
  rw [count_point_of_digits h.digits]
  exact Nat.zero_le _

theorem decimal?_digits {ds : List Char} (hdigits : ∀ c ∈ ds, c.isDigit = true)
    (hne : ds ≠ []) :
    decimal? ds = some (.nearest (Text.digitsValue ds) 1) := by
  have htake : ds.takeWhile Char.isDigit = ds := by simpa using hdigits
  have hdrop : ds.dropWhile Char.isDigit = [] := by simpa using hdigits
  simp [decimal?, htake, hdrop, hne]

theorem decimal?_point {whole fraction : List Char} (hwhole : ∀ c ∈ whole, c.isDigit = true)
    (hfraction : ∀ c ∈ fraction, c.isDigit = true) (hne : whole ++ fraction ≠ []) :
    decimal? (whole ++ '.' :: fraction) =
      some (.nearest (Text.digitsValue (whole ++ fraction)) (10 ^ fraction.length)) := by
  have htake : (whole ++ '.' :: fraction).takeWhile Char.isDigit = whole :=
    Text.takeWhile_isDigit hwhole (by simp)
  have hdrop : (whole ++ '.' :: fraction).dropWhile Char.isDigit = '.' :: fraction := by
    rw [List.dropWhile_append_of_pos hwhole]
    rfl
  have hall : fraction.all Char.isDigit = true := List.all_eq_true.2 hfraction
  have hsome : (whole.isEmpty && fraction.isEmpty) = false := by
    simpa [Bool.and_eq_false_iff, List.isEmpty_eq_false_iff, or_iff_not_imp_left] using hne
  simp only [decimal?, htake, hdrop, List.drop_one, List.tail_cons, hall, hsome]
  rfl

theorem isNumber_of_decimal? {number : List Char} {x : Magnitude}
    (hnumeric : ∀ c ∈ number, isNumeric c = true) (h : decimal? number = some x) :
    IsNumber number := by
  let whole := number.takeWhile Char.isDigit
  let rest := number.dropWhile Char.isDigit
  have hsplit : number = whole ++ rest := List.takeWhile_append_dropWhile.symm
  have hwhole : ∀ c ∈ whole, c.isDigit = true := fun c hc => List.mem_takeWhile_imp hc
  have hread : ((rest.drop 1).all Char.isDigit && !(whole.isEmpty && (rest.drop 1).isEmpty)) =
      true := by
    simp only [decimal?, Option.ite_none_right_eq_some] at h
    exact h.1
  obtain ⟨hall, hsome⟩ := Bool.and_eq_true_iff.1 hread
  have hfraction : ∀ c ∈ rest.drop 1, c.isDigit = true := List.all_eq_true.1 hall
  refine ⟨?_, ?_, ?_⟩
  · intro c hc
    simpa [isNumeric] using hnumeric c hc
  · by_cases hnone : whole = []
    · have hne : rest.drop 1 ≠ [] := by
        intro hempty
        simp [hnone, hempty] at hsome
      obtain ⟨c, hc⟩ := List.exists_mem_of_ne_nil _ hne
      rw [hsplit]
      exact ⟨c, List.mem_append_right _ (List.mem_of_mem_drop hc), hfraction c hc⟩
    · obtain ⟨c, hc⟩ := List.exists_mem_of_ne_nil _ hnone
      rw [hsplit]
      exact ⟨c, List.mem_append_left _ hc, hwhole c hc⟩
  · rw [hsplit, List.count_append, count_point_of_digits hwhole]
    cases hrest : rest with
    | nil => simp
    | cons c fraction =>
      rw [hrest, List.drop_one, List.tail_cons] at hfraction
      rw [List.count_cons, count_point_of_digits hfraction]
      split <;> omega

/-- A segment that has a span is one as it should be. -/
theorem isSpelled_of_duration {p : Segment} {d : Duration}
    (hnumeric : ∀ c ∈ p.number, isNumeric c = true) (h : p.duration = .ok d) : p.IsSpelled := by
  unfold Segment.duration at h
  split at h
  · cases h
  split at h
  · cases h
  cases hunit : unitNanos? p.unit with
  | none =>
    rw [hunit] at h
    cases h
  | some scale =>
    rw [hunit] at h
    dsimp only at h
    refine ⟨?_, scale, unitNanos?_eq_some_iff.1 hunit⟩
    cases hword : word? p.number with
    | some n => exact (word?_eq_some_iff.1 hword).isNumber
    | none =>
      rw [hword] at h
      dsimp only at h
      cases hdecimal : decimal? p.number with
      | none =>
        rw [hdecimal] at h
        cases h
      | some x => exact isNumber_of_decimal? hnumeric hdecimal

theorem eq_of_nanos_eq {d d' : Duration} (h : d.nanos = d'.nanos) : d = d' := by
  cases d
  cases d'
  congr

theorem addSegment_eq_ok_iff {total d : Duration} {p : Segment} :
    addSegment total p = .ok d ↔
      ∃ span, p.duration = .ok span ∧ d.nanos = total.nanos + span.nanos := by
  rw [addSegment, Json.bind_eq_ok]
  refine exists_congr fun span => and_congr_right fun _ => ?_
  rw [← ofNanos?_eq_some_iff, add?]
  cases ofNanos? (total.nanos + span.nanos) <;> simp

namespace Segment

/-- The nanoseconds of the span; none if there is no span. -/
def nanos (p : Segment) : ℕ := p.duration.toOption.elim 0 Duration.nanos

theorem nanos_eq {p : Segment} {span : Duration} (h : p.duration = .ok span) :
    p.nanos = span.nanos := by
  rw [nanos, h]
  rfl

end Segment

/-- Segments are added up: there is a sum if each of them has a span, and the sum is short
enough. -/
theorem foldlM_eq_ok_iff {parts : List Segment} {total d : Duration} :
    parts.foldlM addSegment total = .ok d ↔
      (∀ p ∈ parts, ∃ span, p.duration = .ok span) ∧
        d.nanos = total.nanos + (parts.map Segment.nanos).sum := by
  induction parts generalizing total with
  | nil =>
    constructor
    · intro h
      obtain rfl := Except.ok.inj h
      exact ⟨nofun, rfl⟩
    · rintro ⟨-, hd⟩
      exact congrArg Except.ok (eq_of_nanos_eq hd.symm)
  | cons p parts ih =>
    simp only [List.foldlM_cons, Json.bind_eq_ok, addSegment_eq_ok_iff, ih, List.forall_mem_cons,
      List.map_cons, List.sum_cons]
    constructor
    · rintro ⟨next, ⟨span, hspan, hnext⟩, hrest, hd⟩
      refine ⟨⟨⟨span, hspan⟩, hrest⟩, ?_⟩
      rw [Segment.nanos_eq hspan]
      omega
    · rintro ⟨⟨⟨span, hspan⟩, hrest⟩, hd⟩
      rw [Segment.nanos_eq hspan] at hd
      have hlt := d.nanos_lt
      -- A sum on the way is no longer than the whole.
      let next : Duration := ⟨total.nanos + span.nanos, by omega⟩
      exact ⟨next, ⟨span, hspan, rfl⟩, hrest, by simp only [next]; omega⟩

theorem isBare_of_bare? {body : List Char} {d : Duration} (h : bare? body = some d) :
    IsBare d.nanos body := by
  obtain ⟨n, hword, hn⟩ := Option.bind_eq_some_iff.1 h
  obtain rfl := ofNanos?_eq_some_iff.1 hn
  rw [word?_eq_some_iff] at hword
  split at hword
  · exact ⟨_, .inr rfl, hword⟩
  · exact ⟨_, .inl rfl, hword⟩

/-- What is read is of one of the two forms, but for blanks around it. -/
theorem exists_form_of_parse {input : String} {d : Duration} (h : parse input = .ok d) :
    ∃ before body after, input.toList = before ++ body ++ after ∧
      (∀ c ∈ before, Text.isBlank c = true) ∧ (∀ c ∈ after, Text.isBlank c = true) ∧
      (IsBare d.nanos body ∨
        ∃ parts : List Segment, parts ≠ [] ∧ (∀ p ∈ parts, p.IsSpelled) ∧
          body = parts.flatMap Segment.text) := by
  obtain ⟨before, after, hinput, hbefore, hafter⟩ := Text.exists_blanks input.toList
  refine ⟨before, Text.trim input.toList, after, hinput, hbefore, hafter, ?_⟩
  simp only [parse] at h
  generalize Text.trim input.toList = body at h ⊢
  split at h
  · cases h
  · next hne =>
    split at h
    · next d' hbare =>
      obtain rfl := Except.ok.inj h
      exact .inl (isBare_of_bare? hbare)
    · right
      refine ⟨segments body, ?_, ?_, (text_segments body).symm⟩
      · intro hempty
        have htext := text_segments body
        rw [hempty] at htext
        rw [← htext] at hne
        exact hne rfl
      · intro p hp
        obtain ⟨span, hspan⟩ := (foldlM_eq_ok_iff.1 h).1 p hp
        exact isSpelled_of_duration (isNumeric_of_mem_segments hp) hspan

theorem IsNumber.ne_nil {number : List Char} (h : IsNumber number) : number ≠ [] := by
  obtain ⟨c, hc, -⟩ := h.digit
  exact List.ne_nil_of_mem hc

theorem IsNumber.isNumeric {number : List Char} (h : IsNumber number) :
    ∀ c ∈ number, isNumeric c = true := by
  intro c hc
  simpa [Duration.isNumeric] using h.numeric c hc

/-- Digits with a point among them at most are a number. -/
theorem IsNumber.exists_decimal {number : List Char} (h : IsNumber number) :
    ∃ x, decimal? number = some x := by
  by_cases hpoint : '.' ∈ number
  · obtain ⟨whole, fraction, rfl⟩ := List.append_of_mem hpoint
    have hcount := h.point
    rw [List.count_append, List.count_cons_self] at hcount
    have hwhole : '.' ∉ whole := List.count_eq_zero.1 (by omega)
    have hfraction : '.' ∉ fraction := List.count_eq_zero.1 (by omega)
    have hdigit (c : Char) (hc : c ∈ whole ++ '.' :: fraction) (hne : c ≠ '.') :
        c.isDigit = true :=
      (h.numeric c hc).resolve_right hne
    have hne : whole ++ fraction ≠ [] := by
      obtain ⟨c, hc, hdigit⟩ := h.digit
      have hpoint := ne_point_of_isDigit hdigit
      have hmem : c ∈ whole ++ fraction := by simpa [hpoint] using hc
      exact List.ne_nil_of_mem hmem
    have hwhole' : ∀ c ∈ whole, c.isDigit = true := by
      intro c hc
      exact hdigit c (List.mem_append_left _ hc) fun heq => hwhole (heq ▸ hc)
    have hfraction' : ∀ c ∈ fraction, c.isDigit = true := by
      intro c hc
      exact hdigit c (by simp [hc]) fun heq => hfraction (heq ▸ hc)
    exact ⟨_, decimal?_point hwhole' hfraction' hne⟩
  · have hdigits : ∀ c ∈ number, c.isDigit = true := fun c hc =>
      (h.numeric c hc).resolve_right fun heq => hpoint (heq ▸ hc)
    exact ⟨_, decimal?_digits hdigits h.ne_nil⟩

theorem unit_of_mem_units {unit : List Char} {scale : Nat} (h : (unit, scale) ∈ units) :
    0 < scale ∧ unit ≠ [] ∧ ∀ c ∈ unit, isNumeric c = false ∧ Text.isBlank c = false :=
  unit_of_unitNanos? (unitNanos?_eq_some_iff.2 h)

theorem isBlank_of_isNumeric {c : Char} (h : isNumeric c = true) : Text.isBlank c = false := by
  rcases Bool.or_eq_true_iff.1 h with hc | hc
  · exact Text.isBlank_of_isDigit hc
  · obtain rfl : c = '.' := by simpa using hc
    rfl

namespace Segment

variable {p : Segment} {parts : List Segment}

theorem IsSpelled.isBlank (h : p.IsSpelled) : ∀ c ∈ p.text, Text.isBlank c = false := by
  obtain ⟨hnumber, scale, hunit⟩ := h
  intro c hc
  rcases List.mem_append.1 hc with hc | hc
  · exact isBlank_of_isNumeric (hnumber.isNumeric c hc)
  · exact ((unit_of_mem_units hunit).2.2 c hc).2

/-- A segment begins with a number, so what stands before it is at its end. -/
theorem IsSpelled.head? (h : p.IsSpelled) (rest : List Char) :
    ∀ c ∈ (p.text ++ rest).head?, isNumeric c = true := by
  obtain ⟨c, number, hnumber⟩ := List.exists_cons_of_ne_nil h.1.ne_nil
  intro d hd
  obtain rfl : c = d := by simpa [text, hnumber] using hd
  exact h.1.isNumeric c (hnumber ▸ List.mem_cons_self)

/-- A number with a unit can be at fault only for being out of range. -/
theorem IsSpelled.fault_eq {fault : DurationFault} (h : p.IsSpelled)
    (hfault : p.duration = .error fault) : fault = .outOfRange := by
  obtain ⟨number, unit⟩ := p
  obtain ⟨hnumber, scale, hmem⟩ := h
  have hunit : unitNanos? unit = some scale := unitNanos?_eq_some_iff.2 hmem
  cases hword : word? number with
  | some n =>
    rw [duration_of_word hword hunit] at hfault
    split at hfault
    · cases hnanos : ofNanos? (n * scale) <;> simp_all
    · simpa using hfault.symm
  | none =>
    obtain ⟨x, hdecimal⟩ := hnumber.exists_decimal
    rw [duration_of_decimal hword hdecimal hunit] at hfault
    cases hspan : ofMagnitude? (x * .ofNat scale / .ofNat 1000000000) <;> simp_all

end Segment

/-- And so can a sum of such segments. -/
theorem fault_of_foldlM {parts : List Segment} {total : Duration} {fault : DurationFault}
    (hparts : ∀ p ∈ parts, p.IsSpelled)
    (h : parts.foldlM addSegment total = .error fault) : fault = .outOfRange := by
  induction parts generalizing total with
  | nil => cases h
  | cons p parts ih =>
    rw [List.forall_mem_cons] at hparts
    rw [List.foldlM_cons] at h
    cases hnext : addSegment total p with
    | ok next =>
      rw [hnext] at h
      exact ih hparts.2 h
    | error other =>
      rw [hnext] at h
      obtain rfl := Except.error.inj h
      rw [addSegment] at hnext
      cases hspan : p.duration with
      | error other =>
        rw [hspan] at hnext
        obtain rfl := Except.error.inj hnext
        exact hparts.1.fault_eq hspan
      | ok span =>
        rw [hspan] at hnext
        change (total.add? span).elim _ _ = _ at hnext
        cases hsum : total.add? span <;> simp_all

/-- Segments that follow one another are found again. -/
theorem segments_flatMap {parts : List Segment} (h : ∀ p ∈ parts, p.IsSpelled) :
    segments (parts.flatMap Segment.text) = parts := by
  induction parts with
  | nil => rfl
  | cons p parts ih =>
    have hparts : ∀ q ∈ parts, q.IsSpelled := fun q hq => h q (List.mem_cons_of_mem _ hq)
    obtain ⟨hnumber, scale, hunit⟩ := h p List.mem_cons_self
    obtain ⟨-, hne, hletters⟩ := unit_of_mem_units hunit
    have hnext : ∀ c ∈ (parts.flatMap Segment.text).head?, isNumeric c = true := by
      cases parts with
      | nil => nofun
      | cons q parts => exact (hparts q List.mem_cons_self).head? _
    have hcut := segments_number_unit hnumber.isNumeric hne (fun c hc => (hletters c hc).1) hnext
    rw [ih hparts] at hcut
    rw [List.flatMap_cons, Segment.text, List.append_assoc]
    exact hcut

/-- Text that is made of segments is read as their sum, whatever blanks there are around it. -/
theorem parse_of_spelled {parts : List Segment} {before after : List Char} (hne : parts ≠ [])
    (h : ∀ p ∈ parts, p.IsSpelled) (hbefore : ∀ c ∈ before, Text.isBlank c = true)
    (hafter : ∀ c ∈ after, Text.isBlank c = true) :
    parse (String.ofList (before ++ parts.flatMap Segment.text ++ after)) =
      parts.foldlM addSegment zero := by
  obtain ⟨p, rest, rfl⟩ := List.exists_cons_of_ne_nil hne
  have hp : p.IsSpelled := h p List.mem_cons_self
  have hbody : ∀ c ∈ (p :: rest).flatMap Segment.text, Text.isBlank c = false := by
    intro c hc
    obtain ⟨q, hq, hc⟩ := List.mem_flatMap.1 hc
    exact (h q hq).isBlank c hc
  have hbody_ne : (p :: rest).flatMap Segment.text ≠ [] := by
    simp [Segment.text, hp.1.ne_nil]
  have htrim := Text.trim_blanks hbefore hbody_ne hbody hafter
  have hbare : bare? ((p :: rest).flatMap Segment.text) = none := by
    apply bare?_eq_none
    · intro hplus
      have hnumeric := hp.head? _ '+' hplus
      cases hnumeric
    · obtain ⟨hnumber, scale, hunit⟩ := hp
      obtain ⟨-, hunit_ne, hletters⟩ := unit_of_mem_units hunit
      obtain ⟨c, hc⟩ := List.exists_mem_of_ne_nil _ hunit_ne
      have hletter := (hletters c hc).1
      rw [isNumeric, Bool.or_eq_false_iff] at hletter
      refine ⟨c, ?_, hletter.1⟩
      simp [Segment.text, hc]
  simp only [parse, String.toList_ofList, htrim, hbare, segments_flatMap h]
  rw [if_neg (by simpa using hbody_ne)]

/-- A whole number that fits a 64-bit word, with a unit. -/
structure WholeSegment extends Segment where
  value : Nat
  scale : Nat
  isWhole : IsWhole value number
  unit_mem : (unit, scale) ∈ units

namespace WholeSegment

variable {parts : List WholeSegment}

/-- The number times the unit. -/
def nanos (p : WholeSegment) : Nat := p.value * p.scale

/-- The number and its unit as they stand in a text. -/
def text (p : WholeSegment) : List Char := p.toSegment.text

theorem isSpelled (p : WholeSegment) : p.toSegment.IsSpelled :=
  ⟨p.isWhole.isNumber, p.scale, p.unit_mem⟩

theorem isSpelled_map (parts : List WholeSegment) : ∀ p ∈ parts.map toSegment, p.IsSpelled :=
  List.forall_mem_map.2 fun p _ => p.isSpelled

theorem duration_eq (p : WholeSegment) :
    p.toSegment.duration =
      if p.nanos < UInt64.size then (ofNanos? p.nanos).elim (.error .outOfRange) .ok
      else .error .outOfRange :=
  duration_of_word (word?_eq_some_iff.2 p.isWhole) (unitNanos?_eq_some_iff.2 p.unit_mem)

theorem duration_eq_ok_iff (p : WholeSegment) {span : Duration} :
    p.toSegment.duration = .ok span ↔ p.nanos < UInt64.size ∧ span.nanos = p.nanos := by
  rw [← ofNanos?_eq_some_iff, duration_eq]
  by_cases hfits : p.nanos < UInt64.size
  · cases ofNanos? p.nanos <;> simp [hfits]
  · simp [hfits]

theorem exists_span_iff (p : WholeSegment) :
    (∃ span, p.toSegment.duration = .ok span) ↔ p.nanos < UInt64.size := by
  simp only [duration_eq_ok_iff]
  constructor
  · rintro ⟨-, hfits, -⟩
    exact hfits
  · intro hfits
    exact ⟨⟨p.nanos, hfits.trans_le (Nat.le_mul_of_pos_right _ (by decide))⟩, hfits, rfl⟩

/-- Whole numbers are added up: there is a sum if each of them fits a 64-bit word when it has been
multiplied, and the sum is short enough. -/
theorem foldlM_eq_ok_iff {total d : Duration} :
    (parts.map toSegment).foldlM addSegment total = .ok d ↔
      (∀ p ∈ parts, p.nanos < UInt64.size) ∧ d.nanos = total.nanos + (parts.map nanos).sum := by
  simp only [Duration.foldlM_eq_ok_iff, List.forall_mem_map, exists_span_iff]
  refine and_congr_right fun hfits => ?_
  have hnanos : (parts.map toSegment).map Segment.nanos = parts.map nanos := by
    rw [List.map_map]
    apply List.map_congr_left
    intro p hp
    obtain ⟨span, hspan⟩ := p.exists_span_iff.2 (hfits p hp)
    exact (Segment.nanos_eq hspan).trans (p.duration_eq_ok_iff.1 hspan).2
  rw [hnanos]

theorem fault_of_foldlM {total : Duration} {fault : DurationFault}
    (h : (parts.map toSegment).foldlM addSegment total = .error fault) : fault = .outOfRange :=
  Duration.fault_of_foldlM (isSpelled_map parts) h

/-- Whole numbers with units are read as their sum, or are out of range. -/
theorem parse_eq {before after : List Char} (hne : parts ≠ [])
    (hbefore : ∀ c ∈ before, Text.isBlank c = true)
    (hafter : ∀ c ∈ after, Text.isBlank c = true) :
    parse (String.ofList (before ++ parts.flatMap text ++ after)) =
      (parts.map toSegment).foldlM addSegment zero := by
  have htext : (parts.map toSegment).flatMap Segment.text = parts.flatMap text :=
    List.flatMap_map ..
  rw [← htext]
  exact parse_of_spelled (by simpa using hne) (isSpelled_map parts) hbefore hafter

end WholeSegment

/-- What is read as a span is a bare number of nanoseconds that fits a 64-bit word, or one or more
numbers with their units, with blanks around the whole at most. And whole numbers with units are
read as their sum if each product fits a 64-bit word and the sum is short enough; else they are out
of range. -/
theorem forms_of_spans :
    (∀ (input : String) (d : Duration), parse input = .ok d →
      ∃ before body after, input.toList = before ++ body ++ after ∧
        (∀ c ∈ before, Text.isBlank c = true) ∧ (∀ c ∈ after, Text.isBlank c = true) ∧
        (IsBare d.nanos body ∨
          ∃ parts : List Segment, parts ≠ [] ∧ (∀ p ∈ parts, p.IsSpelled) ∧
            body = parts.flatMap Segment.text)) ∧
    (∀ (parts : List WholeSegment) (before after : List Char), parts ≠ [] →
      (∀ c ∈ before, Text.isBlank c = true) → (∀ c ∈ after, Text.isBlank c = true) →
      let input := String.ofList (before ++ parts.flatMap WholeSegment.text ++ after)
      let sum := (parts.map WholeSegment.nanos).sum
      ((∀ p ∈ parts, p.nanos < UInt64.size) → sum < UInt64.size * 1000000000 →
        ∃ d, parse input = .ok d ∧ d.nanos = sum) ∧
      ((∃ p ∈ parts, UInt64.size ≤ p.nanos) → parse input = .error .outOfRange) ∧
      (UInt64.size * 1000000000 ≤ sum → parse input = .error .outOfRange)) := by
  refine ⟨fun _ _ => exists_form_of_parse, ?_⟩
  intro parts before after hne hbefore hafter input sum
  have hparse := WholeSegment.parse_eq hne hbefore hafter
  have hread (d : Duration) := @WholeSegment.foldlM_eq_ok_iff parts zero d
  have hzero : zero.nanos = 0 := rfl
  have hrefused (h : ∀ d, ¬ (parts.map WholeSegment.toSegment).foldlM addSegment zero = .ok d) :
      parse input = .error .outOfRange := by
    rw [hparse]
    cases hsum : (parts.map WholeSegment.toSegment).foldlM addSegment zero with
    | ok d => exact absurd hsum (h d)
    | error fault => rw [WholeSegment.fault_of_foldlM hsum]
  refine ⟨?_, ?_, ?_⟩
  · intro hfits hsum
    refine ⟨⟨sum, hsum⟩, ?_, rfl⟩
    rw [hparse, hread, hzero, Nat.zero_add]
    exact ⟨hfits, rfl⟩
  · rintro ⟨p, hp, hlarge⟩
    apply hrefused
    intro d hd
    have hfits := ((hread d).1 hd).1 p hp
    omega
  · intro hlarge
    apply hrefused
    intro d hd
    have hlt := d.nanos_lt
    have hsum := ((hread d).1 hd).2
    omega

end Duration

end HealthRelay
