import HealthRelay.Text.Blank
import HealthRelay.Text.Digits
import HealthRelay.Timestamp

/-!
Points in time as RFC 3339 text.

The written form is in UTC, with the fewest of no, three, six or nine digits of the fraction of a
second; years of more or fewer than four digits carry a sign. A leap second is second 60. The
reader also takes blanks around the numbers, short numbers, any offset from UTC and a longer
fraction, which it cuts off.
-/

namespace HealthRelay.Timestamp

/-- A year: four digits, or a sign and at least four. -/
def yearText (year : Int) : List Char :=
  if 0 ≤ year ∧ year ≤ 9999 then Text.padded 4 year.toNat
  else (if year < 0 then '-' else '+') :: Text.padded 4 year.natAbs

/-- The fraction of a second. -/
def fractionText (nanos : Nat) : List Char :=
  if nanos = 0 then []
  else if nanos % 1000000 = 0 then '.' :: Text.padded 3 (nanos / 1000000)
  else if nanos % 1000 = 0 then '.' :: Text.padded 6 (nanos / 1000)
  else '.' :: Text.padded 9 nanos

/-- The written form. -/
def render (t : Timestamp) : List Char :=
  let d := t.date
  let s := t.secondOfDay
  let isLeap := 1000000000 ≤ t.nanos
  yearText d.year ++ '-' :: Text.padded 2 d.month ++ '-' :: Text.padded 2 d.day ++
    'T' :: Text.padded 2 (s / 3600) ++ ':' :: Text.padded 2 (s / 60 % 60) ++
    ':' :: Text.padded 2 (s % 60 + if isLeap then 1 else 0) ++
    fractionText (if isLeap then t.nanos - 1000000000 else t.nanos) ++ ['Z']

def text (t : Timestamp) : String := String.ofList t.render

/-- One or more digits, at most `most`. -/
def scanDigits (most : Nat) (s : List Char) : Option (Nat × List Char) :=
  let ds := (s.takeWhile Char.isDigit).take most
  if ds.isEmpty then none else some (Text.digitsValue ds, s.drop ds.length)

/-- A number of at most two digits after blanks. -/
def scanPair (s : List Char) : Option (Nat × List Char) := scanDigits 2 (Text.dropBlank s)

/-- A year after blanks: at most four digits, or a sign and any number of them. -/
def scanYear (s : List Char) : Option (Int × List Char) :=
  match Text.dropBlank s with
  | '-' :: s => (scanDigits s.length s).map fun (n, s) => (-(n : Int), s)
  | '+' :: s => (scanDigits s.length s).map fun (n, s) => ((n : Int), s)
  | s => (scanDigits 4 s).map fun (n, s) => ((n : Int), s)

/-- One given character, after blanks. -/
def scanMark (mark : Char) (s : List Char) : Option (List Char) :=
  match Text.dropBlank s with
  | c :: s => if c = mark then some s else none
  | [] => none

/-- A point and a fraction of a second, in nanoseconds; without a point it is zero. -/
def scanFraction (s : List Char) : Option (Nat × List Char) :=
  match s with
  | '.' :: s =>
    let ds := s.takeWhile Char.isDigit
    let kept := ds.take 9
    if kept.isEmpty then none
    else some (Text.digitsValue kept * Nat.pow 10 (9 - kept.length), s.drop ds.length)
  | s => some (0, s)

/-- Two digits, the first at most `most`. -/
def scanTwo (most : Char) : List Char → Option (Nat × List Char)
  | a :: b :: s =>
    if a.isDigit && a ≤ most && b.isDigit then some (Text.digitsValue [a, b], s) else none
  | _ => none

/-- Hours and minutes of an offset from UTC, in seconds; colons and blanks may stand between. -/
def scanHours (s : List Char) : Option (Int × List Char) := do
  let (hours, s) ← scanTwo '9' s
  let (minutes, s) ← scanTwo '5' (s.dropWhile fun c => c == ':' || Text.isBlank c)
  if hours < 24 then some ((hours * 3600 + minutes * 60 : Nat), s) else none

/-- An offset from UTC, in seconds. -/
def scanOffset (s : List Char) : Option (Int × List Char) :=
  match s with
  | 'Z' :: s | 'z' :: s => some (0, s)
  | '+' :: s => scanHours s
  | '-' :: s | '−' :: s => (scanHours s).map fun (n, s) => (-n, s)
  | u :: t :: c :: s =>
    if (u = 'U' ∨ u = 'u') ∧ (t = 'T' ∨ t = 't') ∧ (c = 'C' ∨ c = 'c') then some (0, s) else none
  | _ => none

/-- The date and time, before the offset is taken into account. -/
structure Local where
  date : Date
  hour : Nat
  minute : Nat
  second : Nat
  nanos : Nat

/-- The years there are points in time in. -/
def isYear (year : Int) : Bool := -262143 ≤ year && year ≤ 262142

/-- The date and time of day exist; second 60 is a leap second. -/
def Local.isValid (l : Local) : Bool :=
  isYear l.date.year && l.date.isValid && l.hour < 24 && l.minute < 60 && l.second ≤ 60

def scanDate (s : List Char) : Option (Date × List Char) := do
  let (year, s) ← scanYear s
  let (month, s) ← scanPair (← scanMark '-' s)
  let (day, s) ← scanPair (← scanMark '-' s)
  some (⟨year, month, day⟩, s)

def scanLocal (s : List Char) : Option (Local × List Char) := do
  let (date, s) ← scanDate s
  let s ← match s with
    | 'T' :: s | 't' :: s | ' ' :: s => some s
    | _ => none
  let (hour, s) ← scanPair s
  let (minute, s) ← scanPair (← scanMark ':' s)
  let (second, s) ← scanPair (← scanMark ':' s)
  let (nanos, s) ← scanFraction s
  some (⟨date, hour, minute, second, nanos⟩, s)

/-- The point in time of a date and time at an offset from UTC. -/
def Local.at? (l : Local) (offset : Int) : Option Timestamp :=
  if l.isValid then
    let isLeap := l.second = 60
    let second := if isLeap then 59 else l.second
    ofUnix?
      (l.date.toDays * 86400 + (l.hour * 3600 + l.minute * 60 + second : Nat) - offset)
      (l.nanos + if isLeap then 1000000000 else 0 : Nat)
  else none

/-- Reads a point in time. -/
def parse (input : String) : Option Timestamp := do
  let (l, s) ← scanLocal input.toList
  let (offset, s) ← scanOffset (Text.dropBlank s)
  if (Text.dropBlank s).isEmpty then l.at? offset else none

end HealthRelay.Timestamp
