import HealthRelay.Proofs.Json.Numerals
import Mathlib.Data.List.Chain

/-!
Which texts have which tokens, with any white space between them, and that the scanner takes them
so.
-/
namespace HealthRelay.Json

variable {done ts : List Token} {t : Token} {codes more : List Nat} {s w rest : List Char}

/-- White space. -/
def Blank (w : List Char) : Prop := ∀ c ∈ w, c = ' ' ∨ c = '\t' ∨ c = '\n' ∨ c = '\r'

theorem blank_nil : Blank [] := by simp [Blank]

/-- The spellings of a character code in a string. -/
inductive SpellsCode : Nat → List Char → Prop where
  | plain {c : Char} (hquote : c ≠ '"') (hbackslash : c ≠ '\\') (hcontrol : 0x20 ≤ c.toNat) :
    SpellsCode c.toNat [c]
  | letter {c : Char} {n : Nat} (h : escapeCode? c = some n) : SpellsCode n ['\\', c]
  | hex {a b c d : Char} {i j k l : Nat} (ha : hexValue? a = some i) (hb : hexValue? b = some j)
    (hc : hexValue? c = some k) (hd : hexValue? d = some l) :
    SpellsCode (16 * (16 * (16 * i + j) + k) + l) ['\\', 'u', a, b, c, d]

/-- The spellings of the codes of a string, the latest first. -/
inductive SpellsCodes : List Nat → List Char → Prop where
  | nil : SpellsCodes [] []
  | snoc {codes : List Nat} {n : Nat} {s u : List Char} (hs : SpellsCodes codes s)
    (hu : SpellsCode n u) : SpellsCodes (n :: codes) (s ++ u)

/-- The spellings of a token. -/
inductive Lexeme : Token → List Char → Prop where
  | beginArray : Lexeme .beginArray ['[']
  | endArray : Lexeme .endArray [']']
  | beginObject : Lexeme .beginObject ['\x7b']
  | endObject : Lexeme .endObject ['\x7d']
  | comma : Lexeme .comma [',']
  | colon : Lexeme .colon [':']
  | null : Lexeme .null ['n', 'u', 'l', 'l']
  | true : Lexeme (.bool true) ['t', 'r', 'u', 'e']
  | false : Lexeme (.bool false) ['f', 'a', 'l', 's', 'e']
  | number {n : Numeral} {s : List Char} (hs : n.Spelling s) : Lexeme (.number n) s
  | string {codes : List Nat} {s : List Char} (hs : SpellsCodes codes s) :
    Lexeme (stringOf codes) ('"' :: (s ++ ['"']))

/-- The text is made of these tokens with white space before, between and after them. -/
inductive Laid : List Token → List Char → Prop where
  | nil {w : List Char} (hw : Blank w) : Laid [] w
  | cons {w s rest : List Char} {t : Token} {ts : List Token} (hw : Blank w) (hs : Lexeme t s)
    (hrest : Laid ts rest) : Laid (t :: ts) (w ++ (s ++ rest))

def Token.IsNumber : Token → Prop
  | .number _ => True
  | _ => False

/-- No numeral comes directly after another, with which it could make one. -/
def Separated (ts : List Token) : Prop := ts.IsChain fun t u => ¬ (t.IsNumber ∧ u.IsNumber)

/-! From the grammar to the scanner. -/

theorem scan_blank (hw : Blank w) :
    scan .start done (w ++ rest) = scan .start done rest := by
  induction w with
  | nil => rfl
  | cons c w ih =>
    have hspace : Mode.begin done c = .more .start done := by
      rcases hw c List.mem_cons_self with rfl | rfl | rfl | rfl <;> rfl
    have htail := ih fun d hd => hw d (List.mem_cons_of_mem _ hd)
    simpa [scan, Mode.step, hspace] using htail

theorem scan_code {n : Nat} (h : SpellsCode n s) :
    scan (.text codes) done (s ++ rest) = scan (.text (n :: codes)) done rest := by
  cases h with
  | @plain c hquote hbackslash hcontrol =>
    have hfree : ¬ c.toNat < 0x20 := Nat.not_lt.2 hcontrol
    simp [scan, Mode.step, hquote, hbackslash, hfree]
  | @letter c n h =>
    have hu : c ≠ 'u' := by
      rintro rfl
      cases h
    simp [scan, Mode.step, hu, h]
  | hex ha hb hc hd => simp [scan, Mode.step, ha, hb, hc, hd]

theorem scan_codes (h : SpellsCodes more s) :
    scan (.text codes) done (s ++ rest) = scan (.text (more ++ codes)) done rest := by
  induction h generalizing rest with
  | nil => rfl
  | snoc hs hu ih => rw [List.append_assoc, ih, scan_code hu, List.cons_append]

/-- A token is read off each of its spellings. After a numeral something else must follow. -/
theorem scan_lexeme (h : Lexeme t s) (hrest : t.IsNumber → EndsNumeral rest) :
    scan .start done (s ++ rest) = scan .start (t :: done) rest := by
  cases h with
  | number hs => exact scan_spelling hs (hrest trivial)
  | @string codes s hs =>
    have hopen : scan .start done ('"' :: (s ++ ['"']) ++ rest) =
        scan (.text []) done (s ++ '"' :: rest) := by
      simp [scan, Mode.step, Mode.begin, isSpace]
    rw [hopen, scan_codes hs, List.append_nil]
    rfl
  | _ => rfl

theorem endsNumeral_blank (hw : Blank w) (hrest : EndsNumeral rest) : EndsNumeral (w ++ rest) := by
  cases w with
  | nil => exact hrest
  | cons c w =>
    intro d hd
    obtain rfl := Option.some.inj hd
    rcases hw c List.mem_cons_self with rfl | rfl | rfl | rfl <;> decide

theorem endsNumeral_lexeme (h : Lexeme t s) (ht : ¬ t.IsNumber) : EndsNumeral (s ++ rest) := by
  intro c hc
  cases h with
  | number hs => exact absurd trivial ht
  | _ =>
    obtain rfl := Option.some.inj hc
    decide

/-- A numeral ends where another token or nothing follows. -/
theorem Laid.endsNumeral (h : Laid ts s) (hts : ∀ t ∈ ts.head?, ¬ t.IsNumber) : EndsNumeral s := by
  cases h with
  | nil hw =>
    rw [← List.append_nil s]
    exact endsNumeral_blank hw nofun
  | cons hw hs hrest => exact endsNumeral_blank hw (endsNumeral_lexeme hs (hts _ rfl))

theorem Laid.scan (h : Laid ts s) (hts : Separated ts) (done : List Token) :
    scan .start done s = ts.reverse ++ done := by
  induction h generalizing done with
  | @nil w hw =>
    have hscan := @scan_blank done w [] hw
    rw [List.append_nil] at hscan
    rw [hscan]
    rfl
  | @cons w s rest t ts hw hs hrest ih =>
    obtain ⟨hnext, hts⟩ := List.isChain_cons.1 hts
    have hend : t.IsNumber → EndsNumeral rest := by
      intro ht
      apply hrest.endsNumeral
      intro u hu hnumber
      exact hnext u hu ⟨ht, hnumber⟩
    rw [scan_blank hw, scan_lexeme hs hend, ih hts, List.reverse_cons, List.append_assoc]
    rfl

/-- The scanner finds the tokens of a text. -/
theorem Laid.tokens_eq (h : Laid ts s) (hts : Separated ts) : tokens s = ts := by
  rw [tokens, h.scan hts, List.append_nil, List.reverse_reverse]

end HealthRelay.Json
