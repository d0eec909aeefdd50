import HealthRelay.Duration
import HealthRelay.Text.Blank
import HealthRelay.Text.Quoted

/-!
Spans of time as text: `30s`, `500ms`, `1m30s`, `1.5h`, or a bare number of nanoseconds.

A text is cut into segments, a number and its unit each, and the spans of the segments are added
from left to right; the first segment that has none, or whose span makes the sum too long, is the
fault.
-/

namespace HealthRelay

/-- Why a text is no span of time. -/
inductive DurationFault where
  | empty
  | missingUnit
  | expectedNumber
  | unknownUnit (unit : String)
  | malformedNumber
  | outOfRange
  deriving DecidableEq

namespace DurationFault

/-- The wording of a fault. -/
def message : DurationFault → String
  | .empty => "empty duration"
  | .missingUnit => "missing unit"
  | .expectedNumber => "expected a number"
  | .unknownUnit unit => "unknown unit " ++ Text.quoted unit
  | .malformedNumber => "malformed number"
  | .outOfRange => "out of range"

end DurationFault

namespace Duration

/-- The characters of numbers. -/
def isNumeric (c : Char) : Bool := c.isDigit || c == '.'

/-- A number and the unit that follows it. -/
structure Segment where
  number : List Char
  unit : List Char
  deriving DecidableEq

/-- The segments of a text. Only the first can lack a number, and only the last a unit. -/
def segments : List Char → List Segment
  | [] => []
  | c :: s =>
    match segments s with
    | [] => if isNumeric c then [⟨[c], []⟩] else [⟨[], [c]⟩]
    | next :: rest =>
      if isNumeric c then ⟨c :: next.number, next.unit⟩ :: rest
      else if next.number.isEmpty then ⟨[], c :: next.unit⟩ :: rest
      else ⟨[], [c]⟩ :: next :: rest

/-- The nanoseconds of a unit. -/
def unitNanos? (unit : List Char) : Option Nat :=
  if unit = ['n', 's'] then some 1
  else if unit = ['u', 's'] ∨ unit = ['µ', 's'] then some 1000
  else if unit = ['m', 's'] then some 1000000
  else if unit = ['s'] then some 1000000000
  else if unit = ['m'] then some (60 * 1000000000)
  else if unit = ['h'] then some (3600 * 1000000000)
  else none

/-- A run of digits that fits a 64-bit word. -/
def word? (ds : List Char) : Option Nat :=
  let value := Text.digitsValue ds
  if !ds.isEmpty && ds.all Char.isDigit && value < UInt64.size then some value else none

/-- The binary64 number nearest to digits with at most one point among them. -/
def decimal? (s : List Char) : Option Magnitude :=
  let whole := s.takeWhile Char.isDigit
  let fraction := (s.dropWhile Char.isDigit).drop 1
  if fraction.all Char.isDigit && !(whole.isEmpty && fraction.isEmpty) then
    some (.nearest (Text.digitsValue (whole ++ fraction)) (Nat.pow 10 fraction.length))
  else none

/-- The span of a segment. A whole number that fits a 64-bit word is multiplied exactly, and the
product has to fit one too; any other number is multiplied in binary64. -/
def Segment.duration (segment : Segment) : Except DurationFault Duration :=
  if segment.unit.isEmpty then .error .missingUnit
  else if segment.number.isEmpty then .error .expectedNumber
  else match unitNanos? segment.unit with
  | none => .error (.unknownUnit (String.ofList segment.unit))
  | some scale =>
    match word? segment.number with
    | some n =>
      if n * scale < UInt64.size then (ofNanos? (n * scale)).elim (.error .outOfRange) .ok
      else .error .outOfRange
    | none =>
      match decimal? segment.number with
      | none => .error .malformedNumber
      | some x =>
        (ofMagnitude? (x * .ofNat scale / .ofNat 1000000000)).elim (.error .outOfRange) .ok

/-- A running sum with the span of one more segment. -/
def addSegment (total : Duration) (segment : Segment) : Except DurationFault Duration := do
  let d ← segment.duration
  (total.add? d).elim (.error .outOfRange) .ok

/-- A bare whole number of nanoseconds that fits a 64-bit word; a plus sign may stand before it. -/
def bare? (s : List Char) : Option Duration := do
  let n ← word? (match s with
    | '+' :: rest => rest
    | _ => s)
  ofNanos? n

/-- Reads a span of time; blanks around it do not count. -/
def parse (input : String) : Except DurationFault Duration :=
  let s := Text.trim input.toList
  if s.isEmpty then .error .empty
  else match bare? s with
  | some d => .ok d
  | none => (segments s).foldlM addSegment zero

end Duration

end HealthRelay
