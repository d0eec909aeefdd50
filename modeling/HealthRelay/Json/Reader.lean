import HealthRelay.Json.Number
import HealthRelay.Json.Outline
import HealthRelay.Table
import HealthRelay.Text.Quoted

/-!
Readers: from the outline of a JSON text to values of other types.

A reader reports the first thing wrong in the order of the text. Records may stand as objects or as
arrays of their fields; members of objects that no field is named after are passed over.
-/

namespace HealthRelay.Json

/-- Why a text was not read. -/
inductive Fault where
  /-- It is no JSON. -/
  | malformed
  /-- It is JSON so far, but not of the form asked for. -/
  | content (message : String)
  /-- A string in it is no text of the format it should be in. -/
  | unreadable (text : String)
  deriving DecidableEq

/-- The wording of a fault. -/
def Fault.message : Fault → String
  | .malformed => "malformed JSON"
  | .content message => message
  | .unreadable text => "unreadable text " ++ Text.quoted text

/-- A way to read values. -/
abbrev Reader (α : Type) := Outline → Except Fault α

variable {α β : Type}

/-- How messages name a number. -/
def Number.inspect : Number → String
  | .natural n => "integer `" ++ toString n ++ "`"
  | .negative n => "integer `-" ++ toString n ++ "`"
  | .real x => "floating point `" ++ x.text .json ++ "`"

/-- How messages name a value. -/
def Outline.inspect : Outline → Except Fault String
  | .broken | .string none => .error .malformed
  | .null => .ok "null"
  | .bool b => .ok ("boolean `" ++ (if b then "true" else "false") ++ "`")
  | .number n => (number? n).elim (.error .malformed) fun x => .ok x.inspect
  | .string (some s) => .ok ("string " ++ Text.quoted s)
  | .array _ _ => .ok "sequence"
  | .object _ _ => .ok "map"

/-- The value is not of the form wanted. -/
def mismatch (wanted : String) (o : Outline) : Except Fault α := do
  .error (.content ("invalid type: " ++ (← o.inspect) ++ ", expected " ++ wanted))

def readString (wanted : String := "a string") : Reader String
  | .string (some s) => .ok s
  | o => mismatch wanted o

def readBool : Reader Bool
  | .bool b => .ok b
  | o => mismatch "a boolean" o

/-- A whole number that fits 32 bits. -/
def readUInt32 : Reader UInt32
  | .number n =>
    match number? n with
    | none => .error .malformed
    | some (.natural v) =>
      if v < UInt32.size then .ok (.ofNat v)
      else .error (.content ("invalid value: " ++ (Number.natural v).inspect ++ ", expected u32"))
    | some (.negative v) =>
      .error (.content ("invalid value: " ++ (Number.negative v).inspect ++ ", expected u32"))
    | some (.real _) => mismatch "u32" (.number n)
  | o => mismatch "u32" o

/-- Any number, whole numbers rounded. -/
def readBinary64 : Reader Binary64
  | .number n =>
    match number? n with
    | none => .error .malformed
    | some (.natural v) => .ok (.signed false (.ofNat v))
    | some (.negative v) => .ok (.signed true (.ofNat v))
    | some (.real x) => .ok x
  | o => mismatch "f64" o

/-- An array, item by item. -/
def readArray (read : Reader α) : Reader (List α)
  | .array items closed => do
    let values ← items.mapM read
    if closed then .ok values else .error .malformed
  | o => mismatch "a sequence" o

/-- The text of a key. -/
def readKey : Reader String
  | .string (some s) => .ok s
  | _ => .error .malformed

/-- An object from keys to values of one kind; of two members with one key the later counts. -/
def readTable (read : Reader α) : Reader (Table α)
  | .object members closed => do
    let entries ← members.mapM fun (key, value) => do
      let name ← readKey key
      let v ← read value
      pure (name, v)
    if closed then .ok (.ofList entries) else .error .malformed
  | o => mismatch "a map" o

/-- The names of choices as messages list them. -/
def listChoices : List String → String
  | [a] => "`" ++ a ++ "`"
  | [a, b] => "`" ++ a ++ "` or `" ++ b ++ "`"
  | names => "one of " ++ ", ".intercalate (names.map fun a => "`" ++ a ++ "`")

/-- The choice of that name. -/
def readChoiceName (choices : List (String × α)) (name : String) : Except Fault α :=
  match choices.find? fun choice => choice.1 == name with
  | some choice => .ok choice.2
  | none => .error (.content
      ("unknown variant `" ++ name ++ "`, expected " ++ listChoices (choices.map Prod.fst)))

/-- One of several named choices: its name, or an object whose one member has the name and null. -/
def readChoice (choices : List (String × α)) : Reader α
  | .string (some s) => readChoiceName choices s
  | .object ((key, payload) :: rest) closed => do
    let choice ← readChoiceName choices (← readString "variant identifier" key)
    match payload with
    | .null => if closed && rest.isEmpty then .ok choice else .error .malformed
    | o => mismatch "unit" o
  | _ => .error .malformed

/-- A field of a record: its name, how it is read, and what an absent one counts as. A field
without such a value is required. -/
structure RecordField (α : Type) where
  name : String
  read : Reader α
  absent : Option α

/-- What going through a record needs to know of a field. -/
structure Expected where
  name : String
  required : Bool
  check : Outline → Except Fault Unit

def RecordField.expected (f : RecordField α) : Expected :=
  ⟨f.name, f.absent.isNone, fun o => (f.read o).map fun _ => ()⟩

/-- The members of a record that belong to its fields, by name. -/
abbrev Members := List (String × Outline)

def Members.get? (members : Members) (name : String) : Option Outline :=
  (members.find? fun m => m.1 == name).map Prod.snd

/-- The value of a field. -/
def RecordField.of (f : RecordField α) (members : Members) : Except Fault α :=
  match members.get? f.name with
  | some o => f.read o
  | none => f.absent.elim (.error (.content ("missing field `" ++ f.name ++ "`"))) .ok

/-- One more member of an object: a second one for a field is a fault, and so is a value that the
field cannot read. -/
def addMember (fields : List Expected) (found : Members) (member : Outline × Outline) :
    Except Fault Members := do
  let name ← readKey member.1
  match fields.find? fun f => f.name == name with
  | none => .ok found
  | some f =>
    if (found.get? name).isSome then .error (.content ("duplicate field `" ++ name ++ "`"))
    else do
      f.check member.2
      .ok (found ++ [(name, member.2)])

/-- The fields still required. -/
def missing (fields : List Expected) (found : Members) : List Expected :=
  fields.filter fun f => f.required && (found.get? f.name).isNone

/-- The items of an array taken as fields in order, from the `index`-th field on. -/
def pairItems (description : String) (closed : Bool) :
    Nat → List Expected → List Outline → Except Fault Members
  | _, [], [] => if closed then .ok [] else .error .malformed
  | _, [], _ :: _ => .error .malformed
  | index, f :: fields, item :: items => do
    f.check item
    let rest ← pairItems description closed (index + 1) fields items
    .ok ((f.name, item) :: rest)
  | index, f :: fields, [] =>
    if !closed then .error .malformed
    else if f.required then
      .error (.content ("invalid length " ++ toString index ++ ", expected " ++ description))
    else pairItems description closed (index + 1) fields []

/-- The members of a record of the given name that belong to its fields. -/
def readMembers (name : String) (fields : List Expected) : Reader Members
  | .object members closed => do
    let found ← members.foldlM (addMember fields) []
    if !closed then .error .malformed
    else match missing fields found with
    | f :: _ => .error (.content ("missing field `" ++ f.name ++ "`"))
    | [] => .ok found
  | .array items closed =>
    pairItems ("struct " ++ name ++ " with " ++ toString fields.length ++ " elements") closed 0
      fields items
  | o => mismatch ("struct " ++ name) o

/-- Reads a text that holds one value and nothing else. -/
def readText (read : Reader α) (text : String) : Except Fault α := do
  let d := document text.toList
  let v ← read d.value
  if d.trailing then .error .malformed else .ok v

end HealthRelay.Json
