import HealthRelay.Json.Number
import HealthRelay.Proofs.Json.Scanning

/-!
Numerals: which ones are JSON, that they are read back as they are written, and that all that are
written are JSON.
-/
namespace HealthRelay

variable {n : Numeral} {rest ds : List Char}

/-- The numeral is JSON: no zeros before other digits, and digits wherever there must be some. -/
structure Numeral.WellFormed (n : Numeral) : Prop where
  whole : n.whole = ['0'] ∨
    ∃ c ds, n.whole = c :: ds ∧ c.isDigit = true ∧ c ≠ '0' ∧ ∀ d ∈ ds, d.isDigit = true
  fraction : ∀ d ∈ n.fraction, d.isDigit = true
  exponent : ∀ sign ds, n.exponent = some (sign, ds) → ds ≠ [] ∧ ∀ d ∈ ds, d.isDigit = true

/-- The spellings of an exponent part: its mark may be a capital letter. -/
inductive Numeral.ExponentSpelling : Option (ExponentSign × List Char) → List Char → Prop where
  | small {part : Option (ExponentSign × List Char)} : ExponentSpelling part (exponentText part)
  | capital {part : Option (ExponentSign × List Char)} {s : List Char}
    (h : exponentText part = 'e' :: s) : ExponentSpelling part ('E' :: s)

/-- The text spells the numeral. -/
def Numeral.Spelling (n : Numeral) (s : List Char) : Prop :=
  n.WellFormed ∧ ∃ tail, ExponentSpelling n.exponent tail ∧
    s = (if n.negative then ['-'] else []) ++ n.whole ++ fractionText n.fraction ++ tail

theorem Numeral.WellFormed.spelling_text (h : n.WellFormed) : n.Spelling n.text :=
  ⟨h, Numeral.exponentText n.exponent, .small, rfl⟩

theorem Numeral.wellFormed_ofNat (k : Nat) : (Numeral.ofNat k).WellFormed where
  whole := by
    rcases Nat.eq_zero_or_pos k with rfl | hpos
    · exact .inl rfl
    · exact .inr (Text.toDigits_eq_cons hpos)
  fraction := by simp [ofNat]
  exponent := by simp [ofNat]

namespace Decimal

variable {d : Decimal} {layout : Layout} {negative : Bool}

/-- Zero has one form, and any other decimal has digits. -/
def IsNormal (d : Decimal) : Prop := 0 < d.digits ∨ d.exponent = 0

theorem isDigit_of_mem_zeros {k m : Nat} {c : Char}
    (h : c ∈ List.replicate k '0' ++ Nat.toDigits 10 m) : c.isDigit = true := by
  rcases List.mem_append.1 h with h | h
  · rw [List.eq_of_mem_replicate h]
    rfl
  · exact Text.isDigit_of_mem_toDigits h

theorem wellFormed_plain (hd : d.IsNormal) (pointZero negative : Bool) :
    (d.plain pointZero negative).WellFormed := by
  unfold plain
  dsimp only
  split
  · refine ⟨?_, ?_, by simp⟩
    · rcases Nat.eq_zero_or_pos d.digits with hzero | hpos
      · have hexp : d.exponent = 0 := hd.resolve_left (by omega)
        exact .inl (by simp [hzero, hexp])
      · obtain ⟨c, ds, heq, hc, hne, hds⟩ := Text.toDigits_eq_cons hpos
        refine .inr ⟨c, ds ++ List.replicate d.exponent.toNat '0', by simp [heq], hc, hne, ?_⟩
        intro e he
        rcases List.mem_append.1 he with he | he
        · exact hds e he
        · rw [List.eq_of_mem_replicate he]
          rfl
    · cases pointZero <;> simp
  · rename_i hneg
    have hpos : 0 < d.digits := hd.resolve_right (by omega)
    have hplaces : 0 < (-d.exponent).toNat := by omega
    obtain ⟨c, ds, heq, hc, hne, hds⟩ := Text.toDigits_eq_cons hpos
    refine ⟨?_, fun e he => isDigit_of_mem_zeros (List.mem_of_mem_drop he), by simp⟩
    by_cases hshort : (Nat.toDigits 10 d.digits).length ≤ (-d.exponent).toNat
    · refine .inl ?_
      obtain ⟨k, hk⟩ : ∃ k, (-d.exponent).toNat + 1 - (Nat.toDigits 10 d.digits).length = k + 1 :=
        ⟨(-d.exponent).toNat - (Nat.toDigits 10 d.digits).length, by omega⟩
      have hlen : (List.replicate (k + 1) '0' ++ Nat.toDigits 10 d.digits).length -
          (-d.exponent).toNat = 1 := by
        rw [List.length_append, List.length_replicate]
        omega
      rw [hk, hlen]
      simp [List.replicate_succ]
    · refine .inr ?_
      have hk : (-d.exponent).toNat + 1 - (Nat.toDigits 10 d.digits).length = 0 := by omega
      obtain ⟨k, hlen⟩ : ∃ k, (Nat.toDigits 10 d.digits).length - (-d.exponent).toNat = k + 1 :=
        ⟨(Nat.toDigits 10 d.digits).length - (-d.exponent).toNat - 1, by omega⟩
      rw [hk, List.replicate_zero, List.nil_append, hlen, heq]
      exact ⟨c, ds.take k, rfl, hc, hne, fun e he => hds e (List.mem_of_mem_take he)⟩

theorem wellFormed_scientific (d : Decimal) (layout : Layout) (negative : Bool) :
    (d.scientific layout negative).WellFormed where
  whole := by
    rcases Nat.eq_zero_or_pos d.digits with hzero | hpos
    · exact .inl (by simp [scientific, hzero])
    · obtain ⟨c, ds, heq, hc, hne, -⟩ := Text.toDigits_eq_cons hpos
      exact .inr ⟨c, [], by simp [scientific, heq], hc, hne, by simp⟩
  fraction c hc := Text.isDigit_of_mem_toDigits (List.mem_of_mem_drop hc)
  exponent sign ds h := by
    obtain ⟨-, rfl⟩ := Prod.mk.inj (Option.some.inj h)
    exact ⟨by simp, fun c hc => isDigit_of_mem_zeros hc⟩

theorem wellFormed_numeral (hd : d.IsNormal) : (d.numeral layout negative).WellFormed := by
  unfold numeral
  split
  · exact wellFormed_plain hd _ _
  · exact wellFormed_scientific _ _ _

/-- A point of a grid that stands for a number other than zero is not zero. -/
theorem pos_of_onGrid? {a : Magnitude} {tieUp : Bool} {e : Int} {k : Nat}
    (h : onGrid? a tieUp e = some k) : 0 < k := by
  -- Only the choice at the end matters, not how the points compare with the number.
  have hchoice (m : Nat) (here above upper : Bool)
      (hk : (if here && 0 < m then if upper then some (m + 1) else some m
        else if above then some (m + 1) else none) = some k) : 0 < k := by
    split at hk
    · rename_i hpos
      have hm : 0 < m := by simpa using (Bool.and_eq_true_iff.1 hpos).2
      split at hk
      · obtain rfl := Option.some.inj hk
        omega
      · obtain rfl := Option.some.inj hk
        exact hm
    · split at hk
      · obtain rfl := Option.some.inj hk
        omega
      · cases hk
  exact hchoice _ _ _ _ h

theorem isNormal_shortest (a : Magnitude) (tieUp : Bool) : (shortest a tieUp).IsNormal := by
  unfold shortest
  split
  · exact .inr rfl
  · cases h : exponents.findSome? fun e => (onGrid? a tieUp e).map fun k => (⟨k, e⟩ : Decimal) with
    | none => exact .inr rfl
    | some d =>
      obtain ⟨e, -, heq⟩ := List.exists_of_findSome?_eq_some h
      obtain ⟨k, hk, rfl⟩ := Option.map_eq_some_iff.1 heq
      exact .inl (pos_of_onGrid? hk)

end Decimal

/-- Every number that is written is JSON. -/
theorem Binary64.wellFormed_numeral? {x : Binary64} {layout : Layout}
    (h : x.numeral? layout = some n) : n.WellFormed := by
  cases x with
  | nan => cases h
  | signed negative a =>
    simp only [numeral?] at h
    split at h
    · cases h
    · obtain rfl := Option.some.inj h
      exact Decimal.wellFormed_numeral (Decimal.isNormal_shortest _ _)

namespace Json

/-- What follows a numeral is not part of it. -/
def EndsNumeral (rest : List Char) : Prop :=
  ∀ c ∈ rest.head?, c.isDigit = false ∧ c ≠ '.' ∧ c ≠ 'e' ∧ c ≠ 'E'

variable {done : List Token} {d : NumeralDraft}

theorem scan_more {d d' : NumeralDraft} {c : Char} (h : d.next c = .more d') :
    scan (.numeral d) done (c :: rest) = scan (.numeral d') done rest := by
  simp only [scan, Mode.step, h]

/-- A run of digits goes where each of its digits goes. -/
theorem scan_digits {draft : List Char → NumeralDraft}
    (hnext : ∀ seen c, c.isDigit = true → (draft seen).next c = .more (draft (c :: seen)))
    (hds : ∀ c ∈ ds, c.isDigit = true) (seen : List Char) :
    scan (.numeral (draft seen)) done (ds ++ rest) =
      scan (.numeral (draft (ds.reverse ++ seen))) done rest := by
  induction ds generalizing seen with
  | nil => rfl
  | cons c ds ih =>
    have hc : (draft seen).next c = .more (draft (c :: seen)) := hnext seen c (hds c (by simp))
    rw [List.cons_append, scan_more hc, ih fun d hd => hds d (List.mem_cons_of_mem _ hd)]
    simp

theorem ne_of_isDigit {c d : Char} (hc : c.isDigit = true) (hd : d.isDigit = false) : c ≠ d := by
  rintro rfl
  simp [hc] at hd

/-- A numeral may begin with a digit. -/
theorem begin_of_isDigit {c : Char} (hc : c.isDigit = true) (hzero : c ≠ '0') :
    Mode.begin done c = .more (.numeral ⟨.whole, false, [c], [], .bare, []⟩) done := by
  have hne {d : Char} (hd : d.isDigit = false) : c ≠ d := ne_of_isDigit hc hd
  have hspace : isSpace c = false := by
    simp [isSpace, @hne ' ' rfl, @hne '\t' rfl, @hne '\n' rfl, @hne '\r' rfl]
  simp only [Mode.begin, hspace, @hne '[' rfl, @hne ']' rfl, @hne '\x7b' rfl, @hne '\x7d' rfl,
    @hne ',' rfl, @hne ':' rfl, @hne '"' rfl, @hne 'n' rfl, @hne 't' rfl, @hne 'f' rfl,
    @hne '-' rfl, hzero, hc, if_true, if_false, Bool.false_eq_true]

/-- The sign and the digits before the point. -/
theorem scan_whole (h : n.WellFormed) :
    ∃ stage, (stage = .zero ∨ stage = .whole) ∧
      scan .start done ((if n.negative then ['-'] else []) ++ n.whole ++ rest) =
        scan (.numeral ⟨stage, n.negative, n.whole.reverse, [], .bare, []⟩) done rest := by
  rcases h.whole with hwhole | ⟨c, ds, hwhole, hc, hzero, hds⟩
  · refine ⟨.zero, .inl rfl, ?_⟩
    rw [hwhole]
    cases n.negative <;> rfl
  · refine ⟨.whole, .inr rfl, ?_⟩
    have hrun := @scan_digits rest ds done
      (fun seen => ⟨.whole, n.negative, seen, [], .bare, []⟩)
      (fun seen c hc => by simp [NumeralDraft.next, hc]) hds [c]
    rw [hwhole, List.reverse_cons, ← hrun]
    cases n.negative with
    | false => simp [scan, Mode.step, begin_of_isDigit hc hzero]
    | true =>
      have hbegin : Mode.begin done '-' =
          .more (.numeral ⟨.minus, true, [], [], .bare, []⟩) done := rfl
      simp [scan, Mode.step, hbegin, NumeralDraft.next, hc, hzero]

/-- The point and the digits after it. -/
theorem scan_fraction {d : NumeralDraft} (hd : d.stage = .zero ∨ d.stage = .whole)
    (hempty : d.fraction = []) (hds : ∀ c ∈ ds, c.isDigit = true) :
    ∃ stage, (stage = .zero ∨ stage = .whole ∨ stage = .fraction) ∧
      scan (.numeral d) done (Numeral.fractionText ds ++ rest) =
        scan (.numeral { d with stage := stage, fraction := ds.reverse }) done rest := by
  cases ds with
  | nil =>
    have hself : { d with stage := d.stage, fraction := [] } = d := by rw [← hempty]
    refine ⟨d.stage, by simpa [or_assoc] using Or.inl hd, ?_⟩
    rw [List.reverse_nil, hself]
    rfl
  | cons c ds =>
    have hc : c.isDigit = true := hds c List.mem_cons_self
    have hpoint : d.next '.' = .more { d with stage := .point } := by
      rcases hd with hd | hd <;> simp [NumeralDraft.next, hd]
    have hfirst : { d with stage := .point }.next c =
        .more { d with stage := .fraction, fraction := [c] } := by
      simp [NumeralDraft.next, hc]
    have hrun := @scan_digits rest ds done
      (fun seen => { d with stage := .fraction, fraction := seen })
      (fun seen c hc => by simp [NumeralDraft.next, hc])
      (fun d hd => hds d (List.mem_cons_of_mem _ hd)) [c]
    refine ⟨.fraction, by simp, ?_⟩
    rw [Numeral.fractionText, List.cons_append, scan_more hpoint, List.cons_append,
      scan_more hfirst, hrun, List.reverse_cons]
    simp

/-- The exponent part. -/
theorem scan_exponent {d : NumeralDraft}
    (hd : d.stage = .zero ∨ d.stage = .whole ∨ d.stage = .fraction) {sign : ExponentSign}
    (hsign : d.sign = .bare) (hds : ∀ c ∈ ds, c.isDigit = true) (hne : ds ≠ []) :
    scan (.numeral d) done (Numeral.exponentText (some (sign, ds)) ++ rest) =
      scan (.numeral { d with stage := .exponent, sign := sign, exponent := ds.reverse }) done
        rest := by
  obtain ⟨c, ds, rfl⟩ := List.exists_cons_of_ne_nil hne
  have hc : c.isDigit = true := hds c List.mem_cons_self
  have hmark : d.next 'e' = .more { d with stage := .mark } := by
    rcases hd with hd | hd | hd <;> simp [NumeralDraft.next, hd]
  have hrun := @scan_digits rest ds done
    (fun seen => { d with stage := .exponent, sign := sign, exponent := seen })
    (fun seen c hc => by simp [NumeralDraft.next, hc])
    (fun d hd => hds d (List.mem_cons_of_mem _ hd)) [c]
  rw [List.reverse_cons, ← hrun]
  cases sign with
  | bare =>
    have hfirst : { d with stage := .mark }.next c =
        .more { d with stage := .exponent, sign := .bare, exponent := [c] } := by
      simp [NumeralDraft.next, hc, ← hsign, ne_of_isDigit hc (show '+'.isDigit = false from rfl),
        ne_of_isDigit hc (show '-'.isDigit = false from rfl)]
    simp only [Numeral.exponentText, List.cons_append]
    rw [scan_more hmark, scan_more hfirst]
  | plus =>
    have hplus : { d with stage := .mark }.next '+' =
        .more { d with stage := .markSign, sign := .plus } := rfl
    have hfirst : { d with stage := .markSign, sign := .plus }.next c =
        .more { d with stage := .exponent, sign := .plus, exponent := [c] } := by
      simp [NumeralDraft.next, hc]
    simp only [Numeral.exponentText, List.cons_append]
    rw [scan_more hmark, scan_more hplus, scan_more hfirst]
  | minus =>
    have hminus : { d with stage := .mark }.next '-' =
        .more { d with stage := .markSign, sign := .minus } := rfl
    have hfirst : { d with stage := .markSign, sign := .minus }.next c =
        .more { d with stage := .exponent, sign := .minus, exponent := [c] } := by
      simp [NumeralDraft.next, hc]
    simp only [Numeral.exponentText, List.cons_append]
    rw [scan_more hmark, scan_more hminus, scan_more hfirst]

/-- A numeral that may end does so where something else follows. -/
theorem scan_end (hd : d.stage.isEnd = true) (hrest : EndsNumeral rest) :
    scan (.numeral d) done rest = scan .start (.number d.numeral :: done) rest := by
  cases rest with
  | nil => simp [scan, Mode.finish, hd]
  | cons c rest =>
    obtain ⟨hdigit, hpoint, he, hE⟩ := hrest c rfl
    have hover : d.next c = .over := by
      unfold NumeralDraft.next
      cases h : d.stage <;> simp_all [NumeralStage.isEnd]
    simp [scan, Mode.step, hover]

/-- The mark of an exponent part may be a capital letter. -/
theorem scan_exponentSpelling {d : NumeralDraft}
    (hd : d.stage = .zero ∨ d.stage = .whole ∨ d.stage = .fraction)
    {part : Option (ExponentSign × List Char)} {s : List Char}
    (hs : Numeral.ExponentSpelling part s) :
    scan (.numeral d) done (s ++ rest) =
      scan (.numeral d) done (Numeral.exponentText part ++ rest) := by
  cases hs with
  | small => rfl
  | capital h =>
    have hmark : d.next 'e' = .more { d with stage := .mark } := by
      rcases hd with hd | hd | hd <;> simp [NumeralDraft.next, hd]
    have hcapital : d.next 'E' = .more { d with stage := .mark } := by
      rcases hd with hd | hd | hd <;> simp [NumeralDraft.next, hd]
    rw [h, List.cons_append, List.cons_append, scan_more hmark, scan_more hcapital]

/-- A numeral is read off each of its spellings, if something else follows. -/
theorem scan_spelling {s : List Char} (h : n.Spelling s) (hrest : EndsNumeral rest) :
    scan .start done (s ++ rest) = scan .start (.number n :: done) rest := by
  obtain ⟨hn, tail, htail, rfl⟩ := h
  obtain ⟨stage, hstage, hwhole⟩ := @scan_whole n
    (Numeral.fractionText n.fraction ++ (tail ++ rest)) done hn
  obtain ⟨stage', hstage', hfraction⟩ := @scan_fraction (tail ++ rest) n.fraction done
    ⟨stage, n.negative, n.whole.reverse, [], .bare, []⟩ hstage rfl hn.fraction
  rw [List.append_assoc, List.append_assoc, hwhole, hfraction, scan_exponentSpelling hstage' htail]
  cases hexp : n.exponent with
  | none =>
    have hend : stage'.isEnd = true := by
      rcases hstage' with rfl | rfl | rfl <;> rfl
    rw [Numeral.exponentText, List.nil_append, scan_end hend hrest]
    simp [NumeralDraft.numeral, ← hexp]
  | some part =>
    obtain ⟨sign, ds⟩ := part
    obtain ⟨hne, hds⟩ := hn.exponent sign ds hexp
    rw [scan_exponent hstage' rfl hds hne, scan_end rfl hrest]
    simp [NumeralDraft.numeral, hne, ← hexp]

/-- A numeral is read as it was before it was written, if something else follows. -/
theorem scan_numeral (h : n.WellFormed) (hrest : EndsNumeral rest) :
    scan .start done (n.text ++ rest) = scan .start (.number n :: done) rest :=
  scan_spelling h.spelling_text hrest

/-- Digits of a number that fits a 64-bit word are read to the last. -/
theorem ofWhole_of_lt {k : Nat} (h : Nat.ofDigitChars 10 ds k < UInt64.size) :
    Significand.ofWhole ⟨k, 0⟩ ds = ⟨Nat.ofDigitChars 10 ds k, 0⟩ := by
  induction ds generalizing k with
  | nil => rfl
  | cons c ds ih =>
    rw [Nat.ofDigitChars_cons] at h ⊢
    have hfirst : 10 * k + Text.digitValue c < UInt64.size :=
      Nat.lt_of_le_of_lt (Text.le_ofDigitChars ds _) h
    rw [Significand.ofWhole, if_pos ⟨rfl, hfirst⟩]
    exact ih h

/-- A whole number that fits a 64-bit word is read as it was before it was written. -/
theorem number?_ofNat {k : Nat} (h : k < UInt64.size) :
    number? (.ofNat k) = some (.natural k) := by
  have hvalue : Significand.ofWhole ⟨0, 0⟩ (Nat.toDigits 10 k) = ⟨k, 0⟩ := by
    rw [ofWhole_of_lt (by simpa using h), Nat.ofDigitChars_ten_toDigits]
  simp [number?, Numeral.ofNat, hvalue]

end Json

end HealthRelay
