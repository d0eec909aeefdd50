import HealthRelay.Proofs.Json.Lexing

/-!
Only texts that are made of tokens and white space are taken for tokens by the scanner.

What the scanner has seen of a token is related to the characters it has gone through since the last
complete one.
-/
namespace HealthRelay.Json

variable {done ts : List Token} {t : Token} {codes : List Nat} {s u w rest : List Char}
  {whole fraction tail : List Char} {negative : Bool} {d d' : NumeralDraft} {c : Char}

/-! Numerals. -/

/-- Digits that do not begin with zero. -/
def Positive (ds : List Char) : Prop :=
  ∃ c cs, ds = c :: cs ∧ c.isDigit = true ∧ c ≠ '0' ∧ ∀ d ∈ cs, d.isDigit = true

theorem Positive.singleton (hc : c.isDigit = true) (hne : c ≠ '0') : Positive [c] :=
  ⟨c, [], rfl, hc, hne, by simp⟩

theorem Positive.snoc {ds : List Char} (h : Positive ds) (hc : c.isDigit = true) :
    Positive (ds ++ [c]) := by
  obtain ⟨first, cs, rfl, hfirst, hne, hcs⟩ := h
  refine ⟨first, cs ++ [c], rfl, hfirst, hne, ?_⟩
  intro d hd
  rcases List.mem_append.1 hd with hd | hd
  · exact hcs d hd
  · rwa [List.mem_singleton.1 hd]

/-- The digits before and after the point, latest first, are those of a numeral. -/
structure Fronted (whole fraction : List Char) : Prop where
  whole : whole = ['0'] ∨ Positive whole.reverse
  fraction : ∀ c ∈ fraction, c.isDigit = true

/-- A numeral up to its exponent part. -/
def front (negative : Bool) (whole fraction : List Char) : List Char :=
  (if negative then ['-'] else []) ++ whole.reverse ++ Numeral.fractionText fraction.reverse

/-- The draft is what the characters leave in mind. -/
inductive Drafted : NumeralDraft → List Char → Prop where
  | minus : Drafted ⟨.minus, true, [], [], .bare, []⟩ ['-']
  | zero {negative : Bool} :
    Drafted ⟨.zero, negative, ['0'], [], .bare, []⟩ (front negative ['0'] [])
  | whole {negative : Bool} {whole : List Char} (hwhole : Positive whole.reverse) :
    Drafted ⟨.whole, negative, whole, [], .bare, []⟩ (front negative whole [])
  | point {negative : Bool} {whole : List Char} (hfront : Fronted whole []) :
    Drafted ⟨.point, negative, whole, [], .bare, []⟩ (front negative whole [] ++ ['.'])
  | fraction {negative : Bool} {whole fraction : List Char} (hfront : Fronted whole fraction)
    (hne : fraction ≠ []) :
    Drafted ⟨.fraction, negative, whole, fraction, .bare, []⟩ (front negative whole fraction)
  | mark {negative : Bool} {whole fraction tail : List Char} (hfront : Fronted whole fraction)
    (htail : Numeral.ExponentSpelling (some (.bare, [])) tail) :
    Drafted ⟨.mark, negative, whole, fraction, .bare, []⟩ (front negative whole fraction ++ tail)
  | markSign {negative : Bool} {whole fraction tail : List Char} {sign : ExponentSign}
    (hfront : Fronted whole fraction)
    (htail : Numeral.ExponentSpelling (some (sign, [])) tail) :
    Drafted ⟨.markSign, negative, whole, fraction, sign, []⟩
      (front negative whole fraction ++ tail)
  | exponent {negative : Bool} {whole fraction exponent tail : List Char} {sign : ExponentSign}
    (hfront : Fronted whole fraction) (hexponent : ∀ c ∈ exponent, c.isDigit = true)
    (hne : exponent ≠ [])
    (htail : Numeral.ExponentSpelling (some (sign, exponent.reverse)) tail) :
    Drafted ⟨.exponent, negative, whole, fraction, sign, exponent⟩
      (front negative whole fraction ++ tail)

theorem exponentSpelling_snoc {sign : ExponentSign} {ds : List Char}
    (h : Numeral.ExponentSpelling (some (sign, ds)) tail) (c : Char) :
    Numeral.ExponentSpelling (some (sign, ds ++ [c])) (tail ++ [c]) := by
  have htext : Numeral.exponentText (some (sign, ds ++ [c])) =
      Numeral.exponentText (some (sign, ds)) ++ [c] := by
    cases sign <;> rfl
  cases h with
  | small =>
    rw [← htext]
    exact .small
  | capital h =>
    apply Numeral.ExponentSpelling.capital
    rw [htext, h]
    rfl

theorem exponentSpelling_sign (h : Numeral.ExponentSpelling (some (.bare, [])) tail) :
    Numeral.ExponentSpelling (some (.plus, [])) (tail ++ ['+']) ∧
      Numeral.ExponentSpelling (some (.minus, [])) (tail ++ ['-']) := by
  cases h with
  | small => exact ⟨.small, .small⟩
  | capital h =>
    cases h
    exact ⟨.capital rfl, .capital rfl⟩

theorem Drafted.of_mark (hfront : Fronted whole fraction) (hc : c = 'e' ∨ c = 'E') :
    Drafted ⟨.mark, negative, whole, fraction, .bare, []⟩
      (front negative whole fraction ++ [c]) := by
  apply Drafted.mark hfront
  rcases hc with rfl | rfl
  · exact .small
  · exact .capital rfl

theorem Fronted.of_whole (h : whole = ['0'] ∨ Positive whole.reverse) : Fronted whole [] :=
  ⟨h, by simp⟩

theorem Fronted.cons (h : Fronted whole fraction) (hc : c.isDigit = true) :
    Fronted whole (c :: fraction) := by
  refine ⟨h.whole, ?_⟩
  intro d hd
  rcases List.mem_cons.1 hd with rfl | hd
  · exact hc
  · exact h.fraction d hd

theorem front_cons (hne : fraction ≠ []) :
    front negative whole fraction ++ [c] = front negative whole (c :: fraction) := by
  have htext {ds : List Char} (hds : ds ≠ []) : Numeral.fractionText ds = '.' :: ds := by
    cases ds with
    | nil => exact absurd rfl hds
    | cons c ds => rfl
  rw [front, front, htext (by simpa using hne), htext (by simp)]
  simp

/-- One more character of a numeral. -/
theorem Drafted.next (h : Drafted d u) (hnext : d.next c = .more d') : Drafted d' (u ++ [c]) := by
  cases h with
  | minus =>
    simp only [NumeralDraft.next] at hnext
    split at hnext
    case isTrue hc => subst hc; cases hnext; exact .zero
    split at hnext
    case isTrue hzero hc =>
      cases hnext
      exact @Drafted.whole true [c] (.singleton hc hzero)
    case isFalse => cases hnext
  | zero =>
    have hfront : Fronted ['0'] [] := .of_whole (.inl rfl)
    simp only [NumeralDraft.next] at hnext
    split at hnext
    case isTrue => cases hnext
    split at hnext
    case isTrue hc => subst hc; cases hnext; exact .point hfront
    split at hnext
    case isTrue hc => cases hnext; exact .of_mark hfront hc
    case isFalse => cases hnext
  | @whole negative whole hwhole =>
    have hfront : Fronted whole [] := .of_whole (.inr hwhole)
    simp only [NumeralDraft.next] at hnext
    split at hnext
    case isTrue hc =>
      cases hnext
      have hmore : front negative whole [] ++ [c] = front negative (c :: whole) [] := by
        simp [front, Numeral.fractionText]
      rw [hmore]
      apply Drafted.whole
      rw [List.reverse_cons]
      exact hwhole.snoc hc
    split at hnext
    case isTrue hc => subst hc; cases hnext; exact .point hfront
    split at hnext
    case isTrue hc => cases hnext; exact .of_mark hfront hc
    case isFalse => cases hnext
  | @point negative whole hfront =>
    simp only [NumeralDraft.next] at hnext
    split at hnext
    case isTrue hc =>
      cases hnext
      have hmore : front negative whole [] ++ ['.'] ++ [c] = front negative whole [c] := by
        simp [front, Numeral.fractionText]
      rw [hmore]
      exact .fraction (hfront.cons hc) (by simp)
    case isFalse => cases hnext
  | @fraction negative whole fraction hfront hne =>
    simp only [NumeralDraft.next] at hnext
    split at hnext
    case isTrue hc =>
      cases hnext
      rw [front_cons hne]
      exact .fraction (hfront.cons hc) (by simp)
    split at hnext
    case isTrue hc => cases hnext; exact .of_mark hfront hc
    case isFalse => cases hnext
  | @mark negative whole fraction tail hfront htail =>
    obtain ⟨hplus, hminus⟩ := exponentSpelling_sign htail
    simp only [NumeralDraft.next] at hnext
    rw [List.append_assoc]
    split at hnext
    case isTrue hc => subst hc; cases hnext; exact .markSign hfront hplus
    split at hnext
    case isTrue hc => subst hc; cases hnext; exact .markSign hfront hminus
    split at hnext
    case isTrue hc =>
      cases hnext
      exact .exponent hfront (by simpa using hc) (by simp) (exponentSpelling_snoc htail c)
    case isFalse => cases hnext
  | @markSign negative whole fraction tail sign hfront htail =>
    simp only [NumeralDraft.next] at hnext
    rw [List.append_assoc]
    split at hnext
    case isTrue hc =>
      cases hnext
      exact .exponent hfront (by simpa using hc) (by simp) (exponentSpelling_snoc htail c)
    case isFalse => cases hnext
  | @exponent negative whole fraction exponent tail sign hfront hexponent hne htail =>
    simp only [NumeralDraft.next] at hnext
    rw [List.append_assoc]
    split at hnext
    case isTrue hc =>
      cases hnext
      refine .exponent hfront ?_ (by simp) ?_
      · simpa [hc] using hexponent
      · rw [List.reverse_cons]
        exact exponentSpelling_snoc htail c
    case isFalse => cases hnext

theorem Fronted.spelling {sign : ExponentSign} {exponent : List Char} {stage : NumeralStage}
    (h : Fronted whole fraction) (hexponent : ∀ c ∈ exponent, c.isDigit = true)
    (htail : Numeral.ExponentSpelling
      (if exponent.isEmpty then none else some (sign, exponent.reverse)) tail) :
    (NumeralDraft.mk stage negative whole fraction sign exponent).numeral.Spelling
      (front negative whole fraction ++ tail) := by
  refine ⟨?_, tail, htail, rfl⟩
  constructor
  · rcases h.whole with rfl | hwhole
    · exact .inl rfl
    · exact .inr hwhole
  · intro d hd
    exact h.fraction d (List.mem_reverse.1 hd)
  · intro sign' ds hds
    simp only [NumeralDraft.numeral] at hds
    split at hds
    · cases hds
    case isFalse hne =>
      cases hds
      refine ⟨by simpa using hne, ?_⟩
      intro d hd
      exact hexponent d (List.mem_reverse.1 hd)

theorem Fronted.spelling_bare {stage : NumeralStage} (h : Fronted whole fraction) :
    (NumeralDraft.mk stage negative whole fraction .bare []).numeral.Spelling
      (front negative whole fraction) := by
  have hspelling := @Fronted.spelling whole fraction [] negative .bare [] stage h (by simp) .small
  rwa [List.append_nil] at hspelling

/-- Where a numeral may end, the characters spell it. -/
theorem Drafted.spelling (h : Drafted d u) (hend : d.stage.isEnd = true) :
    d.numeral.Spelling u := by
  cases h with
  | zero => exact Fronted.spelling_bare (.of_whole (.inl rfl))
  | whole hwhole => exact Fronted.spelling_bare (.of_whole (.inr hwhole))
  | fraction hfront hne => exact hfront.spelling_bare
  | exponent hfront hexponent hne htail =>
    apply hfront.spelling hexponent
    rwa [if_neg (by simpa using hne)]
  | _ => cases hend

/-- A draft that is over may end. -/
theorem NumeralDraft.isEnd_of_over (h : d.next c = .over) : d.stage.isEnd = true := by
  rcases d with ⟨stage, negative, whole, fraction, sign, exponent⟩
  unfold next at h
  cases stage with
  | minus | point | mark | markSign => grind
  | zero | whole | fraction | exponent => rfl

/-! Tokens. -/

/-- Hexadecimal digits of a code, how many are still missing, and their value so far. -/
inductive HexDigits : Nat → Nat → List Char → Prop where
  | nil : HexDigits 4 0 []
  | snoc {missing value n : Nat} {s : List Char} {c : Char} (hs : HexDigits (missing + 1) value s)
    (hc : hexValue? c = some n) : HexDigits missing (16 * value + n) (s ++ [c])

theorem HexDigits.missing_le {missing value : Nat} (h : HexDigits missing value s) :
    missing ≤ 4 := by
  induction h with
  | nil => exact Nat.le_refl 4
  | snoc hs hc ih => omega

theorem HexDigits.eq_nil {value : Nat} (h : HexDigits 4 value s) : value = 0 ∧ s = [] := by
  cases h with
  | nil => exact ⟨rfl, rfl⟩
  | snoc hs hc => exact absurd hs.missing_le (by decide)

/-- When none is missing, there are four digits. -/
theorem HexDigits.spellsCode {n : Nat} (h : HexDigits 0 n s) :
    SpellsCode n ('\\' :: 'u' :: s) := by
  rcases h with _ | ⟨_ | ⟨_ | ⟨_ | ⟨hnil, ha⟩, hb⟩, hc⟩, hd⟩
  obtain ⟨rfl, rfl⟩ := hnil.eq_nil
  rw [Nat.mul_zero, Nat.zero_add]
  exact .hex ha hb hc hd

/-- The mode is what the characters since the last complete token leave in mind. -/
inductive Mode.Holds : Mode → List Char → Prop where
  | start {w : List Char} (hw : Blank w) : Holds .start w
  | text {w s : List Char} {codes : List Nat} (hw : Blank w) (hs : SpellsCodes codes s) :
    Holds (.text codes) (w ++ '"' :: s)
  | escape {w s : List Char} {codes : List Nat} (hw : Blank w) (hs : SpellsCodes codes s) :
    Holds (.escape codes) (w ++ '"' :: (s ++ ['\\']))
  | code {w s digits : List Char} {codes : List Nat} {missing value : Nat} (hw : Blank w)
    (hs : SpellsCodes codes s) (hdigits : HexDigits missing value digits) (hmissing : 0 < missing) :
    Holds (.code codes missing value) (w ++ '"' :: (s ++ '\\' :: 'u' :: digits))
  | word {w s missing : List Char} {t : Token} (hw : Blank w) (hs : Lexeme t (s ++ missing)) :
    Holds (.word missing t) (w ++ s)
  | numeral {w s : List Char} {d : NumeralDraft} (hw : Blank w) (hs : Drafted d s) :
    Holds (.numeral d) (w ++ s)

/-- Of the characters seen, the new tokens are made, and the rest is left over. -/
def Accounts (seen : List Char) (new : List Token) (left : List Char) : Prop :=
  ∀ ts rest, Laid ts (left ++ rest) → Laid (new ++ ts) (seen ++ rest)

theorem accounts_nil (seen : List Char) : Accounts seen [] seen := fun _ _ h => h

theorem accounts_token (hw : Blank w) (hs : Lexeme t s) : Accounts (w ++ s) [t] [] := by
  intro ts rest h
  rw [List.append_assoc]
  exact .cons hw hs h

theorem Accounts.append {seen left : List Char} {new new' : List Token} {seen' : List Char}
    (h : Accounts seen new []) (h' : Accounts seen' new' left) :
    Accounts (seen ++ seen') (new ++ new') left := by
  intro ts rest hts
  rw [List.append_assoc, List.append_assoc]
  exact h _ _ (h' ts rest hts)

/-- What one character does: it completes tokens, and the mode after it is right. -/
def Follows (done : List Token) (seen : List Char) (mode : Mode) (done' : List Token) : Prop :=
  ∃ new left, done' = new.reverse ++ done ∧ mode.Holds left ∧ Accounts seen new left

theorem follows_same {mode : Mode} (h : mode.Holds s) : Follows done s mode done :=
  ⟨[], s, rfl, h, accounts_nil s⟩

theorem follows_token (hw : Blank w) (hs : Lexeme t s) :
    Follows done (w ++ s) .start (t :: done) :=
  ⟨[t], [], rfl, .start blank_nil, accounts_token hw hs⟩

theorem blank_snoc (hw : Blank w) (hc : isSpace c = true) : Blank (w ++ [c]) := by
  intro d hd
  rcases List.mem_append.1 hd with hd | hd
  · exact hw d hd
  · rw [List.mem_singleton.1 hd]
    simpa [isSpace, or_assoc] using hc

theorem follows_begin {mode : Mode} {done' : List Token} (hw : Blank w)
    (h : Mode.begin done c = .more mode done') : Follows done (w ++ [c]) mode done' := by
  unfold Mode.begin at h
  rcases ite_eq_iff.1 h with ⟨hspace, h⟩ | ⟨-, h⟩
  · cases h
    exact follows_same (.start (blank_snoc hw hspace))
  rcases ite_eq_iff.1 h with ⟨rfl, h⟩ | ⟨-, h⟩
  · cases h
    exact follows_token hw .beginArray
  rcases ite_eq_iff.1 h with ⟨rfl, h⟩ | ⟨-, h⟩
  · cases h
    exact follows_token hw .endArray
  rcases ite_eq_iff.1 h with ⟨rfl, h⟩ | ⟨-, h⟩
  · cases h
    exact follows_token hw .beginObject
  rcases ite_eq_iff.1 h with ⟨rfl, h⟩ | ⟨-, h⟩
  · cases h
    exact follows_token hw .endObject
  rcases ite_eq_iff.1 h with ⟨rfl, h⟩ | ⟨-, h⟩
  · cases h
    exact follows_token hw .comma
  rcases ite_eq_iff.1 h with ⟨rfl, h⟩ | ⟨-, h⟩
  · cases h
    exact follows_token hw .colon
  rcases ite_eq_iff.1 h with ⟨rfl, h⟩ | ⟨-, h⟩
  · cases h
    exact follows_same (.text hw .nil)
  rcases ite_eq_iff.1 h with ⟨rfl, h⟩ | ⟨-, h⟩
  · cases h
    exact follows_same (.word hw .null)
  rcases ite_eq_iff.1 h with ⟨rfl, h⟩ | ⟨-, h⟩
  · cases h
    exact follows_same (.word hw .true)
  rcases ite_eq_iff.1 h with ⟨rfl, h⟩ | ⟨-, h⟩
  · cases h
    exact follows_same (.word hw .false)
  rcases ite_eq_iff.1 h with ⟨rfl, h⟩ | ⟨-, h⟩
  · cases h
    exact follows_same (.numeral hw .minus)
  rcases ite_eq_iff.1 h with ⟨rfl, h⟩ | ⟨hzero, h⟩
  · cases h
    exact follows_same (.numeral hw .zero)
  rcases ite_eq_iff.1 h with ⟨hdigit, h⟩ | ⟨-, h⟩
  · cases h
    exact follows_same (.numeral hw (@Drafted.whole false [c] (.singleton hdigit hzero)))
  · cases h

theorem Mode.Holds.step {mode mode' : Mode} {done' : List Token} {seen : List Char}
    (h : mode.Holds seen) (hstep : mode.step done c = .more mode' done') :
    Follows done (seen ++ [c]) mode' done' := by
  cases h with
  | start hw => exact follows_begin hw hstep
  | @text w s codes hw hs =>
    rw [List.append_assoc, List.cons_append]
    simp only [Mode.step] at hstep
    split at hstep
    case isTrue hc => subst hc; cases hstep; exact follows_token hw (.string hs)
    split at hstep
    case isTrue hc => subst hc; cases hstep; exact follows_same (.escape hw hs)
    split at hstep
    case isTrue => cases hstep
    case isFalse hquote hbackslash hcontrol =>
      cases hstep
      have hcode := SpellsCode.plain hquote hbackslash (Nat.not_lt.1 hcontrol)
      exact follows_same (.text hw (.snoc hs hcode))
  | @escape w s codes hw hs =>
    rw [List.append_assoc, List.cons_append, List.append_assoc]
    simp only [Mode.step] at hstep
    split at hstep
    case isTrue hc =>
      subst hc
      cases hstep
      exact follows_same (.code hw hs .nil (by decide))
    case isFalse =>
      cases hcode : escapeCode? c with
      | none =>
        rw [hcode] at hstep
        cases hstep
      | some n =>
        rw [hcode] at hstep
        cases hstep
        exact follows_same (.text hw (.snoc hs (.letter hcode)))
  | @code w s digits codes missing value hw hs hdigits hmissing =>
    rw [List.append_assoc, List.cons_append, List.append_assoc, List.cons_append, List.cons_append]
    obtain ⟨missing, rfl⟩ := Nat.exists_eq_add_of_lt hmissing
    simp only [Mode.step] at hstep
    split at hstep
    case h_1 => cases hstep
    case h_2 n hc =>
      have hmore : HexDigits missing (16 * value + n) (digits ++ [c]) :=
        .snoc (by simpa using hdigits) hc
      split at hstep
      case isTrue hlast =>
        cases hstep
        obtain rfl : missing = 0 := by omega
        exact follows_same (.text hw (.snoc hs hmore.spellsCode))
      case isFalse hlast =>
        cases hstep
        have hpos : 0 < missing := by omega
        have hsame := @follows_same done _ _ (Mode.Holds.code hw hs hmore hpos)
        simpa using hsame
  | @word w s missing t hw hs =>
    rw [List.append_assoc]
    simp only [Mode.step] at hstep
    split at hstep
    case h_1 => cases hstep
    case h_2 last =>
      split at hstep
      case isTrue hc => subst hc; cases hstep; exact follows_token hw hs
      case isFalse => cases hstep
    case h_3 first missing _ =>
      split at hstep
      case isTrue hc =>
        subst hc
        cases hstep
        refine follows_same (.word hw ?_)
        simpa using hs
      case isFalse => cases hstep
  | @numeral w s d hw hs =>
    simp only [Mode.step] at hstep
    split at hstep
    case h_1 d' hnext =>
      cases hstep
      rw [List.append_assoc]
      exact follows_same (.numeral hw (hs.next hnext))
    case h_2 => cases hstep
    case h_3 hover =>
      obtain ⟨new, left, rfl, hmode, haccounts⟩ := @follows_begin _ [] c mode' done' blank_nil hstep
      have hnumber : Lexeme (.number d.numeral) s :=
        .number (hs.spelling (NumeralDraft.isEnd_of_over hover))
      exact ⟨.number d.numeral :: new, left, by simp, hmode,
        (accounts_token hw hnumber).append haccounts⟩

/-- A text without anything malformed is made of the tokens that the scanner finds. -/
theorem Mode.Holds.scan {mode : Mode} {seen : List Char} (h : mode.Holds seen)
    (hclean : .malformed ∉ scan mode done s) :
    ∃ ts, scan mode done s = ts.reverse ++ done ∧ Laid ts (seen ++ s) := by
  induction s generalizing mode done seen with
  | nil =>
    rw [List.append_nil]
    simp only [Json.scan] at hclean ⊢
    cases h with
    | start hw => exact ⟨[], rfl, .nil hw⟩
    | @numeral w s d hw hs =>
      simp only [Mode.finish] at hclean ⊢
      split at hclean
      case isTrue hend =>
        refine ⟨[.number d.numeral], by simp [hend], ?_⟩
        have hlaid := Laid.cons hw (.number (hs.spelling hend)) (.nil blank_nil)
        rwa [List.append_nil] at hlaid
      case isFalse => simp at hclean
    | _ => simp [Mode.finish] at hclean
  | cons c s ih =>
    rw [Json.scan] at hclean ⊢
    cases hstep : mode.step done c with
    | stop done' => simp [hstep] at hclean
    | more mode' done' =>
      rw [hstep] at hclean
      obtain ⟨new, left, rfl, hmode, haccounts⟩ := h.step hstep
      obtain ⟨ts, hscan, hlaid⟩ := ih hmode hclean
      refine ⟨new ++ ts, ?_, ?_⟩
      · simp only [hscan, List.reverse_append, List.append_assoc]
      · have hall := haccounts ts s hlaid
        rwa [List.append_assoc] at hall

theorem laid_tokens (h : .malformed ∉ tokens s) : Laid (tokens s) s := by
  have hclean : .malformed ∉ scan .start [] s := by simpa [tokens] using h
  obtain ⟨ts, hscan, hlaid⟩ := (Mode.Holds.start blank_nil).scan hclean
  rw [tokens, hscan, List.append_nil, List.reverse_reverse]
  exact hlaid

end HealthRelay.Json
