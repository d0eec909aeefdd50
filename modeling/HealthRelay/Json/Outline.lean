import HealthRelay.Json.Token

/-!
The outline of a JSON text: its value, as far as the text spells one.

A reader goes through an outline from left to right as it would go through the text. Where the
text breaks off or goes wrong, the outline does: a container is then not closed, and what would
follow is missing. So a reader that refuses a value it has reached does so whatever comes after,
and one that gets to the break knows the text is malformed.
-/

namespace HealthRelay.Json

/-- A value as far as the text spells it. The key of a member is a string unless the text goes
wrong there. -/
inductive Outline where
  /-- Nothing that could be a value. -/
  | broken
  | null
  | bool (b : Bool)
  | number (n : Numeral)
  | string (s : Option String)
  | array (items : List Outline) (closed : Bool)
  | object (members : List (Outline × Outline)) (closed : Bool)

/-- A container that is still open, its contents latest first. An object may have a key that
waits for its value. -/
inductive Frame where
  | array (items : List Outline)
  | object (members : List (Outline × Outline)) (key : Option Outline)

/-- What may come next. -/
inductive Want where
  | value
  | firstItem
  | firstKey
  | key
  | colon
  /-- A comma or the end of the container; outside of all containers, the end of the text. -/
  | next

namespace Frame

/-- The container as it stands. -/
def outline (closed : Bool) : Frame → Outline
  | .array items => .array items.reverse closed
  | .object members none => .object members.reverse closed
  | .object members (some key) => .object ((key, .broken) :: members).reverse closed

/-- The frame with one more value. -/
def add (v : Outline) : Frame → Frame
  | .array items => .array (v :: items)
  | .object members none => .object members none
  | .object members (some key) => .object ((key, v) :: members) none

end Frame

/-- The value of a text whose open containers are never closed. -/
def abandon (inner : Outline) : List Frame → Outline
  | [] => inner
  | frame :: frames => abandon ((frame.add inner).outline false) frames

/-- The value of a text that goes wrong with containers open. -/
def breakOff : List Frame → Outline
  | [] => .broken
  | frame :: frames => abandon (frame.outline false) frames

/-- A value, and whether the text goes on after it. -/
structure Document where
  value : Outline
  trailing : Bool

/-- A value that has just been completed. -/
def complete (v : Outline) : List Frame → List Frame × Option Outline
  | [] => ([], some v)
  | frame :: frames => (frame.add v :: frames, none)

/-- The value of a token that is one by itself. -/
def scalar? : Token → Option Outline
  | .null => some .null
  | .bool b => some (.bool b)
  | .number n => some (.number n)
  | .string s => some (.string s)
  | _ => none

/-- Where a text stands after a token. -/
inductive Course where
  | reading (want : Want) (frames : List Frame)
  | read (v : Outline)
  | failed (v : Outline)

/-- A token where a value begins. -/
def beginValue (frames : List Frame) (t : Token) : Course :=
  match t, scalar? t with
  | _, some v =>
    match complete v frames with
    | (_, some v) => .read v
    | (frames, none) => .reading .next frames
  | .beginArray, none => .reading .firstItem (.array [] :: frames)
  | .beginObject, none => .reading .firstKey (.object [] none :: frames)
  | _, none => .failed (breakOff frames)

/-- The end of the innermost container. -/
def closeFrame (frame : Frame) (frames : List Frame) : Course :=
  match complete (frame.outline true) frames with
  | (_, some v) => .read v
  | (frames, none) => .reading .next frames

/-- A token where a key must stand. A value of another kind is kept as the key, for readers that
tell such keys apart. -/
def beginKey (members : List (Outline × Outline)) (frames : List Frame) (t : Token) : Course :=
  let stray (v : Outline) : Course := .failed (breakOff (.object members (some v) :: frames))
  match t with
  | .string s => .reading .colon (.object members (some (.string s)) :: frames)
  | .null => stray .null
  | .bool b => stray (.bool b)
  | .number n => stray (.number n)
  | .beginArray => stray (.array [] false)
  | .beginObject => stray (.object [] false)
  | _ => .failed (breakOff (.object members none :: frames))

/-- One token. -/
def advance (want : Want) (frames : List Frame) (t : Token) : Course :=
  match want, frames, t with
  | .value, frames, t => beginValue frames t
  | .firstItem, frame :: frames, .endArray => closeFrame frame frames
  | .firstItem, frames, t => beginValue frames t
  | .firstKey, frame :: frames, .endObject => closeFrame frame frames
  | .firstKey, .object members _ :: frames, t => beginKey members frames t
  | .key, .object members _ :: frames, t => beginKey members frames t
  | .colon, frames, .colon => .reading .value frames
  | .next, .array items :: frames, .comma => .reading .value (.array items :: frames)
  | .next, .object members key :: frames, .comma => .reading .key (.object members key :: frames)
  | .next, .array items :: frames, .endArray => closeFrame (.array items) frames
  | .next, .object members key :: frames, .endObject => closeFrame (.object members key) frames
  | _, frames, _ => .failed (breakOff frames)

/-- The document of the rest of a text. -/
def outlineFrom : Want → List Frame → List Token → Document
  | _, frames, [] => ⟨breakOff frames, false⟩
  | want, frames, t :: ts =>
    match advance want frames t with
    | .reading want frames => outlineFrom want frames ts
    | .read v => ⟨v, !ts.isEmpty⟩
    | .failed v => ⟨v, false⟩

/-- The document of a text. -/
def document (s : List Char) : Document := outlineFrom .value [] (tokens s)

end HealthRelay.Json
