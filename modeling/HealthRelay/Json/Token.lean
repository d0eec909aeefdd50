import HealthRelay.Binary64.Text

/-!
The tokens of a JSON text, up to the first place where it is malformed.

The scanner goes through the text once, character by character, and holds in a `Mode` what it has
seen of the current token. After a malformed place there is nothing: a reader meets it only if it
gets that far.
-/

namespace HealthRelay.Json

/-- A token. A string whose escapes do not pair up as surrogates must has no text. -/
inductive Token where
  | beginArray
  | endArray
  | beginObject
  | endObject
  | comma
  | colon
  | null
  | bool (b : Bool)
  | number (n : Numeral)
  | string (s : Option String)
  /-- From here on the text is no JSON. -/
  | malformed
  deriving DecidableEq

/-- What the last character of a numeral was. -/
inductive NumeralStage where
  | minus
  | zero
  | whole
  | point
  | fraction
  | mark
  | markSign
  | exponent
  deriving DecidableEq

/-- A numeral may end here. -/
def NumeralStage.isEnd : NumeralStage → Bool
  | .zero | .whole | .fraction | .exponent => true
  | .minus | .point | .mark | .markSign => false

/-- The parts of a numeral seen so far, the digits latest first. -/
structure NumeralDraft where
  stage : NumeralStage
  negative : Bool
  whole : List Char
  fraction : List Char
  sign : ExponentSign
  exponent : List Char

namespace NumeralDraft

def numeral (d : NumeralDraft) : Numeral :=
  ⟨d.negative, d.whole.reverse, d.fraction.reverse,
    if d.exponent.isEmpty then none else some (d.sign, d.exponent.reverse)⟩

/-- How a character goes on with a numeral: it is part of it, it cannot stand there, or the
numeral ends before it. -/
inductive Next where
  | more (d : NumeralDraft)
  | malformed
  | over

def next (d : NumeralDraft) (c : Char) : Next :=
  match d.stage with
  | .minus =>
    if c = '0' then .more { d with stage := .zero, whole := [c] }
    else if c.isDigit then .more { d with stage := .whole, whole := [c] }
    else .malformed
  | .zero =>
    if c.isDigit then .malformed
    else if c = '.' then .more { d with stage := .point }
    else if c = 'e' ∨ c = 'E' then .more { d with stage := .mark }
    else .over
  | .whole =>
    if c.isDigit then .more { d with whole := c :: d.whole }
    else if c = '.' then .more { d with stage := .point }
    else if c = 'e' ∨ c = 'E' then .more { d with stage := .mark }
    else .over
  | .point =>
    if c.isDigit then .more { d with stage := .fraction, fraction := [c] } else .malformed
  | .fraction =>
    if c.isDigit then .more { d with fraction := c :: d.fraction }
    else if c = 'e' ∨ c = 'E' then .more { d with stage := .mark }
    else .over
  | .mark =>
    if c = '+' then .more { d with stage := .markSign, sign := .plus }
    else if c = '-' then .more { d with stage := .markSign, sign := .minus }
    else if c.isDigit then .more { d with stage := .exponent, exponent := [c] }
    else .malformed
  | .markSign =>
    if c.isDigit then .more { d with stage := .exponent, exponent := [c] } else .malformed
  | .exponent =>
    if c.isDigit then .more { d with exponent := c :: d.exponent } else .over

end NumeralDraft

/-- What has been seen of the current token. In a string the codes stand latest first; a code
that came from an escape may be a surrogate. -/
inductive Mode where
  | start
  | text (codes : List Nat)
  | escape (codes : List Nat)
  | code (codes : List Nat) (missing : Nat) (value : Nat)
  | word (missing : List Char) (token : Token)
  | numeral (d : NumeralDraft)

/-- The text of character codes, each high surrogate joined with the low one after it. -/
def joinSurrogates : List Nat → Option (List Char)
  | [] => some []
  | high :: low :: rest =>
    if 0xd800 ≤ high ∧ high < 0xdc00 then
      if 0xdc00 ≤ low ∧ low < 0xe000 then
        (joinSurrogates rest).map
          (Char.ofNat (0x10000 + (high - 0xd800) * 0x400 + (low - 0xdc00)) :: ·)
      else none
    else if 0xdc00 ≤ high ∧ high < 0xe000 then none
    else (joinSurrogates (low :: rest)).map (Char.ofNat high :: ·)
  | [code] => if 0xd800 ≤ code ∧ code < 0xe000 then none else some [Char.ofNat code]

/-- The string whose codes were seen, latest first. -/
def stringOf (codes : List Nat) : Token :=
  .string ((joinSurrogates codes.reverse).map String.ofList)

/-- The code of a one-letter escape. -/
def escapeCode? (c : Char) : Option Nat :=
  if c = '"' ∨ c = '\\' ∨ c = '/' then some c.toNat
  else if c = 'b' then some 0x08
  else if c = 'f' then some 0x0c
  else if c = 'n' then some 0x0a
  else if c = 'r' then some 0x0d
  else if c = 't' then some 0x09
  else none

/-- The value of a hexadecimal digit. -/
def hexValue? (c : Char) : Option Nat :=
  if c.isDigit then some (c.toNat - '0'.toNat)
  else if 'a' ≤ c ∧ c ≤ 'f' then some (c.toNat - 'a'.toNat + 10)
  else if 'A' ≤ c ∧ c ≤ 'F' then some (c.toNat - 'A'.toNat + 10)
  else none

/-- A character of the text between tokens that means nothing. -/
def isSpace (c : Char) : Bool := c = ' ' || c = '\t' || c = '\n' || c = '\r'

/-- One character: what follows it, and the tokens that are complete with it, latest first. -/
inductive Progress where
  | more (mode : Mode) (done : List Token)
  /-- The character cannot stand there. -/
  | stop (done : List Token)

/-- A character between tokens. -/
def Mode.begin (done : List Token) (c : Char) : Progress :=
  if isSpace c then .more .start done
  else if c = '[' then .more .start (.beginArray :: done)
  else if c = ']' then .more .start (.endArray :: done)
  else if c = '\x7b' then .more .start (.beginObject :: done)
  else if c = '\x7d' then .more .start (.endObject :: done)
  else if c = ',' then .more .start (.comma :: done)
  else if c = ':' then .more .start (.colon :: done)
  else if c = '"' then .more (.text []) done
  else if c = 'n' then .more (.word ['u', 'l', 'l'] .null) done
  else if c = 't' then .more (.word ['r', 'u', 'e'] (.bool true)) done
  else if c = 'f' then .more (.word ['a', 'l', 's', 'e'] (.bool false)) done
  else if c = '-' then .more (.numeral ⟨.minus, true, [], [], .bare, []⟩) done
  else if c = '0' then .more (.numeral ⟨.zero, false, [c], [], .bare, []⟩) done
  else if c.isDigit then .more (.numeral ⟨.whole, false, [c], [], .bare, []⟩) done
  else .stop done

/-- One character of the text. -/
def Mode.step (done : List Token) (c : Char) : Mode → Progress
  | .start => Mode.begin done c
  | .text codes =>
    if c = '"' then .more .start (stringOf codes :: done)
    else if c = '\\' then .more (.escape codes) done
    else if c.toNat < 0x20 then .stop done
    else .more (.text (c.toNat :: codes)) done
  | .escape codes =>
    if c = 'u' then .more (.code codes 4 0) done
    else (escapeCode? c).elim (.stop done) fun n => .more (.text (n :: codes)) done
  | .code codes missing value =>
    match hexValue? c with
    | none => .stop done
    | some h =>
      if missing ≤ 1 then .more (.text ((16 * value + h) :: codes)) done
      else .more (.code codes (missing - 1) (16 * value + h)) done
  | .word missing token =>
    match missing with
    | [] => .stop done
    | [last] => if c = last then .more .start (token :: done) else .stop done
    | head :: rest => if c = head then .more (.word rest token) done else .stop done
  | .numeral d =>
    match d.next c with
    | .more d => .more (.numeral d) done
    | .malformed => .stop done
    | .over => Mode.begin (.number d.numeral :: done) c

/-- The end of the text. -/
def Mode.finish (done : List Token) : Mode → List Token
  | .start => done
  | .numeral d => if d.stage.isEnd then .number d.numeral :: done else .malformed :: done
  | .text _ | .escape _ | .code _ _ _ | .word _ _ => .malformed :: done

/-- The tokens of the rest of a text after those done, latest first. -/
def scan : Mode → List Token → List Char → List Token
  | mode, done, [] => mode.finish done
  | mode, done, c :: s =>
    match mode.step done c with
    | .more mode done => scan mode done s
    | .stop done => .malformed :: done

/-- The tokens of a text, in order. -/
def tokens (s : List Char) : List Token := (scan .start [] s).reverse

end HealthRelay.Json
