import HealthRelay.Proofs.DurationGrammar
import HealthRelay.Proofs.Seconds

/-!
Numbers that are read by way of binary64. Those with a point are read exactly as long as they are
whole nanoseconds and less than `2 ^ 20` seconds. Whole numbers come this way when they are too
large for a 64-bit word, and then the check that refuses a product of `2 ^ 64` nanoseconds and more
does not see them: those below a limit that depends on the unit are taken.
-/
namespace HealthRelay

namespace Duration

variable {whole fraction number unit ds : List Char} {scale v w n : ℕ} {input : String}
  {p : Segment}

/-- A segment alone is read as its span. -/
theorem parse_segment (h : p.IsSpelled) : parse (String.ofList p.text) = p.duration := by
  have hparse := @parse_of_spelled [p] [] [] (by simp) (by simpa using h) nofun nofun
  rw [List.flatMap_singleton, List.nil_append, List.append_nil] at hparse
  rw [hparse, List.foldlM_cons]
  cases hspan : p.duration with
  | ok d =>
    rw [addSegment_zero hspan]
    rfl
  | error fault =>
    rw [addSegment, hspan]
    rfl

/-! Fractions. -/

theorem isNumber_point (hdigits : ∀ c ∈ whole ++ fraction, c.isDigit = true)
    (hne : whole ++ fraction ≠ []) : IsNumber (whole ++ '.' :: fraction) := by
  obtain ⟨c, hc⟩ := List.exists_mem_of_ne_nil _ hne
  refine ⟨?_, ⟨c, ?_, hdigits c hc⟩, ?_⟩
  · intro d hd
    rw [List.mem_append, List.mem_cons] at hd
    have := hdigits d
    rw [List.mem_append] at this
    tauto
  · rw [List.mem_append, List.mem_cons]
    rw [List.mem_append] at hc
    tauto
  · have hcount := count_point_of_digits hdigits
    rw [List.count_append] at hcount
    rw [List.count_append, List.count_cons_self]
    omega

theorem scale_lt (hunit : (unit, scale) ∈ units) : 0 < scale ∧ scale < 2 ^ 42 := by
  have hall : ∀ u ∈ units, 0 < u.2 ∧ u.2 < 2 ^ 42 := by decide
  exact hall _ hunit

/-- A number that is whole nanoseconds with its unit has been rounded three times when it is
seconds. -/
theorem approximates_seconds {digits d : ℕ} (hd : 0 < d) (hunit : (unit, scale) ∈ units)
    (hexact : (digits : ℚ) / d * scale = n) (hn : n ≤ 2 ^ 100) :
    (Magnitude.nearest digits d * .ofNat scale / .ofNat 1000000000).Approximates 3
      ((n : ℚ) / 1000000000) := by
  obtain ⟨hpos, hlt⟩ := scale_lt hunit
  have hscale : (scale : ℚ) ≠ 0 := Nat.cast_ne_zero.2 hpos.ne'
  have hvalue : (digits : ℚ) / d = n / scale := by rw [← hexact, mul_div_cancel_right₀ _ hscale]
  have hmoderate : IsModerate 100 ((n : ℚ) / scale) := isModerate_div hn hpos (by omega)
  have hread : (Magnitude.nearest digits d).Approximates 1 ((n : ℚ) / scale) := by
    rw [← hvalue] at hmoderate ⊢
    exact Magnitude.approximates_nearest hd (hmoderate.mono (by decide))
  have hproduct : (Magnitude.nearest digits d * .ofNat scale).Approximates 2 (n : ℚ) := by
    have hmul := hread.mul (Magnitude.approximates_ofNat (n := scale) (by omega))
      (Nat.cast_nonneg _) (by decide)
    rw [div_mul_cancel₀ _ hscale] at hmul
    apply hmul
    simpa using isModerate_div hn Nat.one_pos (by decide)
  have hbillion := @Magnitude.approximates_ofNat 1000000000 (by decide)
  apply hproduct.div hbillion (by norm_num) (by decide)
  exact isModerate_div hn (by decide) (by decide)

/-- A number with a point and a unit are read as their product, however many digits the number has,
if the product is whole nanoseconds and less than `2 ^ 20` seconds. -/
theorem fractions_exact (hdigits : ∀ c ∈ whole ++ fraction, c.isDigit = true)
    (hne : whole ++ fraction ≠ []) (hunit : (unit, scale) ∈ units)
    (hexact : (Text.digitsValue (whole ++ fraction) : ℚ) / 10 ^ fraction.length * scale = n)
    (hn : n < 2 ^ 20 * 1000000000) :
    ∃ d, parse (String.ofList (whole ++ '.' :: fraction ++ unit)) = .ok d ∧ d.nanos = n := by
  have hspelled : Segment.IsSpelled ⟨whole ++ '.' :: fraction, unit⟩ :=
    ⟨isNumber_point hdigits hne, scale, hunit⟩
  have hword : word? (whole ++ '.' :: fraction) = none := by
    simp [word?, show ('.').isDigit = false from rfl]
  have hdecimal := @decimal?_point whole fraction
    (fun c hc => hdigits c (List.mem_append_left _ hc))
    (fun c hc => hdigits c (List.mem_append_right _ hc)) hne
  have hduration := duration_of_decimal hword hdecimal (unitNanos?_eq_some_iff.2 hunit)
  -- Three roundings of less than `2 ^ 20` seconds come to less than half a nanosecond.
  have hsmall : 2 * (((1 + unitRoundoff) ^ 3 - 1) * (n : ℚ)) < 1 := by
    have hn' : (n : ℚ) < 2 ^ 20 * 1000000000 := by exact_mod_cast hn
    norm_num [unitRoundoff]
    linarith
  have hpow : 0 < 10 ^ fraction.length := Nat.pow_pos (by decide)
  have happrox := @approximates_seconds unit scale n
    (Text.digitsValue (whole ++ fraction)) (10 ^ fraction.length) hpow hunit
    (by push_cast; exact hexact) (by omega)
  have hfits : n < UInt64.size * 1000000000 := hn.trans (by decide)
  obtain ⟨d, hd, hnanos⟩ := ofMagnitude?_of_approximates happrox hsmall hfits
  refine ⟨d, ?_, hnanos⟩
  have hparse := parse_segment hspelled
  rw [hduration, hd] at hparse
  exact hparse

/-- Just below `2 ^ 20` seconds, with a number of hours that no binary fraction is equal to. -/
theorem fractions_exact_near_bound :
    (Text.digitsValue "2912711111111".toList : ℚ) / 10 ^ 10 * (3600 * 1000000000 : ℕ) =
        (1048575999999960 : ℕ) ∧
      1048575999999960 < 2 ^ 20 * 1000000000 ∧
      ∃ d, parse "291.2711111111h" = .ok d ∧ d.nanos = 1048575999999960 := by
  have hvalue : Text.digitsValue "2912711111111".toList = 2912711111111 := by decide
  have hexact : (Text.digitsValue "2912711111111".toList : ℚ) / 10 ^ 10 *
      (3600 * 1000000000 : ℕ) = (1048575999999960 : ℕ) := by
    rw [hvalue]
    norm_num
  have hbound : 1048575999999960 < 2 ^ 20 * 1000000000 := by decide
  exact ⟨hexact, hbound, @fractions_exact "291".toList "2711111111".toList ['h'] _ _
    (List.all_eq_true.1 (by decide)) (by decide) (by decide) hexact hbound⟩

/-! Whole numbers that are too large for a 64-bit word. -/

/-- The span that a whole number and a unit come to in binary64. -/
def roundedSpan? (value scale : ℕ) : Option Duration :=
  ofMagnitude? (.nearest value 1 * .ofNat scale / .ofNat 1000000000)

/-- From here on the span is too long even when it is rounded. -/
def roundedLimit (scale : ℕ) : ℕ :=
  if scale = 1 then 2 ^ 64 * 10 ^ 9 - 2 ^ 40
  else if scale = 1000 then 2 ^ 64 * 10 ^ 6 - 2 ^ 30
  else if scale = 1000000 then 2 ^ 64 * 10 ^ 3 - 2 ^ 20
  else 2 ^ 64

/-- A whole number is too large for a 64-bit word and yet not too large for a span. -/
def ReadByRounding (value scale : ℕ) : Prop :=
  UInt64.size ≤ value ∧ value < roundedLimit scale

theorem roundedSpan?_of_le {e : Duration} (h : v ≤ w) (hw : roundedSpan? w scale = some e) :
    ∃ d, roundedSpan? v scale = some d ∧ d ≤ e := by
  have hbillion : 0 < (Magnitude.ofNat 1000000000).units := by decide +kernel
  have hproduct : Magnitude.nearest v 1 * .ofNat scale ≤ .nearest w 1 * .ofNat scale :=
    Magnitude.mul_le_mul (Magnitude.nearest_le_nearest h) (Nat.le_refl _)
  exact ofMagnitude?_of_le (Magnitude.div_le_div hproduct hbillion) hw

/-- At the limit there is no span, and just below it there is one if any whole number comes to be
rounded with that unit. -/
theorem roundedSpan?_limit (hunit : (unit, scale) ∈ units) :
    roundedSpan? (roundedLimit scale) scale = none ∧
      (UInt64.size < roundedLimit scale →
        (roundedSpan? (roundedLimit scale - 1) scale).isSome = true) := by
  have hall : ∀ u ∈ units, roundedSpan? (roundedLimit u.2) u.2 = none ∧
      (UInt64.size < roundedLimit u.2 →
        (roundedSpan? (roundedLimit u.2 - 1) u.2).isSome = true) := by decide +kernel
  have hscale := hall (unit, scale) hunit
  exact hscale

/-- The order of spans is that of the numbers, so both sides of the limit follow from the limit. -/
theorem roundedSpan?_isSome_iff (hunit : (unit, scale) ∈ units) (hlarge : UInt64.size ≤ v) :
    (∃ d, roundedSpan? v scale = some d) ↔ v < roundedLimit scale := by
  obtain ⟨hlimit, hbelow⟩ := roundedSpan?_limit hunit
  constructor
  · rintro ⟨d, hd⟩
    by_contra hge
    obtain ⟨e, he, -⟩ := roundedSpan?_of_le (Nat.not_lt.1 hge) hd
    rw [hlimit] at he
    cases he
  · intro hlt
    obtain ⟨e, he⟩ := Option.isSome_iff_exists.1 (hbelow (hlarge.trans_lt hlt))
    obtain ⟨d, hd, -⟩ := roundedSpan?_of_le (Nat.le_sub_one_of_lt hlt) he
    exact ⟨d, hd⟩

theorem word?_eq_none_of_large (h : UInt64.size ≤ Text.digitsValue ds) : word? ds = none := by
  rw [Option.eq_none_iff_forall_ne_some]
  intro m hm
  have hwhole := word?_eq_some_iff.1 hm
  have hvalue : Text.digitsValue ds = m := hwhole.value
  have hfits : m < UInt64.size := hwhole.fits
  omega

/-- A whole number that comes to `2 ^ 64` nanoseconds or more has a span only by rounding. -/
theorem exists_span_of_large (hdigits : ∀ c ∈ p.number, c.isDigit = true)
    (hunit : (p.unit, scale) ∈ units)
    (hlarge : UInt64.size ≤ Text.digitsValue p.number * scale) :
    (∃ d, p.duration = .ok d) ↔ ReadByRounding (Text.digitsValue p.number) scale := by
  obtain ⟨number, unit⟩ := p
  have hunit' : unitNanos? unit = some scale := unitNanos?_eq_some_iff.2 hunit
  have hne : number ≠ [] := by
    rintro rfl
    rw [show Text.digitsValue [] = 0 from rfl, Nat.zero_mul] at hlarge
    cases hlarge
  by_cases hfits : Text.digitsValue number < UInt64.size
  · have hword : word? number = some (Text.digitsValue number) :=
      word?_eq_some_iff.2 ⟨hne, hdigits, rfl, hfits⟩
    rw [duration_of_word hword hunit', if_neg (Nat.not_lt.2 hlarge)]
    constructor
    · rintro ⟨d, hd⟩
      cases hd
    · intro h
      exact absurd hfits (Nat.not_lt.2 h.1)
  · have hover : UInt64.size ≤ Text.digitsValue number := Nat.not_lt.1 hfits
    have hspan :=
      duration_of_decimal (word?_eq_none_of_large hover) (decimal?_digits hdigits hne) hunit'
    rw [hspan, ReadByRounding, and_iff_right hover, ← roundedSpan?_isSome_iff hunit hover]
    change (∃ d, (roundedSpan? _ _).elim _ _ = _) ↔ _
    cases roundedSpan? (Text.digitsValue number) scale <;> simp

/-- Where there is a unit, the text is no bare number. -/
theorem bare?_of_unit {s : List Char} (hp : p ∈ segments s) (hunit : (p.unit, scale) ∈ units) :
    bare? s = none := by
  obtain ⟨-, hne, hletters⟩ := unit_of_mem_units hunit
  obtain ⟨c, hc⟩ := List.exists_mem_of_ne_nil _ hne
  have hmem : c ∈ s := by
    rw [← text_segments s]
    exact List.mem_flatMap.2 ⟨p, hp, List.mem_append_right _ hc⟩
  have hletter : c.isDigit = false := by
    have hnumeric := (hletters c hc).1
    rw [isNumeric, Bool.or_eq_false_iff] at hnumeric
    exact hnumeric.1
  have hsign : c ≠ '+' := by
    have hall : ∀ u ∈ units, '+' ∉ u.1 := by decide
    rintro rfl
    exact hall _ hunit hc
  rw [Option.eq_none_iff_forall_ne_some]
  intro d hd
  obtain ⟨ds, hform, hwhole⟩ := isBare_of_bare? hd
  have hds : c ∉ ds := by
    intro hc
    rw [hwhole.digits c hc] at hletter
    cases hletter
  rcases hform with rfl | rfl
  · exact hds hmem
  · exact hds ((List.mem_cons.1 hmem).resolve_left hsign)

/-- A segment without a span is a fault of the text, wherever it stands. -/
theorem parse_of_no_span (hp : p ∈ segments (Text.trim input.toList))
    (hunit : (p.unit, scale) ∈ units) (h : ¬ ∃ d, p.duration = .ok d) :
    ∃ fault, parse input = .error fault := by
  have hbare := bare?_of_unit hp hunit
  simp only [parse, hbare]
  split
  · exact ⟨_, rfl⟩
  · -- A sum of segments is a sum of their spans.
    cases hsum : (segments (Text.trim input.toList)).foldlM addSegment zero with
    | error fault => exact ⟨fault, rfl⟩
    | ok d => exact absurd ((foldlM_eq_ok_iff.1 hsum).1 p hp) h

/-- A text with a whole number that comes to `2 ^ 64` nanoseconds or more with its unit is refused,
also when the number itself is too large for a 64-bit word. The exceptions are the numbers that are
too large for a word but below the limit of their unit: these are read by rounding. -/
theorem oversized_refused (hp : p ∈ segments (Text.trim input.toList))
    (hdigits : ∀ c ∈ p.number, c.isDigit = true) (hunit : (p.unit, scale) ∈ units)
    (hlarge : UInt64.size ≤ Text.digitsValue p.number * scale) :
    (¬ ReadByRounding (Text.digitsValue p.number) scale →
      ∃ fault, parse input = .error fault) ∧
    (ReadByRounding (Text.digitsValue p.number) scale →
      ∃ d, parse (String.ofList p.text) = .ok d) := by
  have hspan := exists_span_of_large hdigits hunit hlarge
  constructor
  · intro hround
    exact parse_of_no_span hp hunit (mt hspan.1 hround)
  · intro hround
    obtain ⟨d, hd⟩ := hspan.2 hround
    have hspelled := isSpelled_of_duration (fun c hc => isNumeric_of_isDigit (hdigits c hc)) hd
    exact ⟨d, (parse_segment hspelled).trans hd⟩

/-- Seconds too many for a 64-bit word, after an hour that is as it should be. -/
theorem oversized_refused_past_word :
    (⟨"18446744073709551616".toList, ['s']⟩ : Segment) ∈
        segments (Text.trim "1h18446744073709551616s".toList) ∧
      UInt64.size ≤ Text.digitsValue "18446744073709551616".toList * 1000000000 ∧
      ¬ ReadByRounding (Text.digitsValue "18446744073709551616".toList) 1000000000 ∧
      ∃ fault, parse "1h18446744073709551616s" = .error fault := by
  have hp : (⟨"18446744073709551616".toList, ['s']⟩ : Segment) ∈
      segments (Text.trim "1h18446744073709551616s".toList) := by decide
  have hlarge : UInt64.size ≤ Text.digitsValue "18446744073709551616".toList * 1000000000 := by
    decide
  have hround : ¬ ReadByRounding (Text.digitsValue "18446744073709551616".toList) 1000000000 := by
    unfold ReadByRounding
    decide
  have hdigits : ∀ c ∈ "18446744073709551616".toList, c.isDigit = true :=
    List.all_eq_true.1 (by decide)
  exact ⟨hp, hlarge, hround, (oversized_refused hp hdigits (by decide) hlarge).1 hround⟩

/-- One nanosecond more than a 64-bit word holds is read, and as another number of nanoseconds. -/
theorem oversized_read_by_rounding :
    segments (Text.trim "18446744073709551616ns".toList) =
        [⟨"18446744073709551616".toList, ['n', 's']⟩] ∧
      UInt64.size ≤ Text.digitsValue "18446744073709551616".toList * 1 ∧
      ∃ d, parse "18446744073709551616ns" = .ok d ∧ d.nanos = 18446744073709552765 := by
  refine ⟨by decide, by decide, ⟨18446744073709552765, by decide⟩, ?_, rfl⟩
  decide +kernel

end Duration

end HealthRelay
