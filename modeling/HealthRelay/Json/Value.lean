import HealthRelay.Binary64.Text

/-!
JSON values and their compact text.
-/

namespace HealthRelay

/-- A JSON value. The members of an object stand in the order they are written in. -/
inductive Json where
  | null
  | bool (b : Bool)
  | number (n : Numeral)
  | string (s : String)
  | array (items : List Json)
  | object (members : List (String × Json))

namespace Json

def ofNat (n : Nat) : Json := .number (.ofNat n)

/-- A finite number by its shortest text; there is no text for the others, and they are null. -/
def ofBinary64 (x : Binary64) : Json := (x.numeral? .json).elim .null .number

/-- The two lowest hexadecimal digits of a code. -/
def twoHexDigits (n : Nat) : List Char := [Nat.digitChar (n / 16 % 16), Nat.digitChar (n % 16)]

/-- One character inside a JSON string. -/
def escape (c : Char) : List Char :=
  if c = '"' then ['\\', '"']
  else if c = '\\' then ['\\', '\\']
  else if c = '\x08' then ['\\', 'b']
  else if c = '\t' then ['\\', 't']
  else if c = '\n' then ['\\', 'n']
  else if c = '\x0c' then ['\\', 'f']
  else if c = '\r' then ['\\', 'r']
  else if c.toNat < 0x20 then ['\\', 'u', '0', '0'] ++ twoHexDigits c.toNat
  else [c]

/-- A JSON string. -/
def renderString (s : String) : List Char := '"' :: s.toList.flatMap escape ++ ['"']

mutual

/-- The compact text: no blanks, members in order. -/
def render : Json → List Char
  | .null => ['n', 'u', 'l', 'l']
  | .bool true => ['t', 'r', 'u', 'e']
  | .bool false => ['f', 'a', 'l', 's', 'e']
  | .number n => n.text
  | .string s => renderString s
  | .array items => '[' :: renderItems items ++ [']']
  | .object members => '\x7b' :: renderMembers members ++ ['\x7d']

/-- Items with commas between them. -/
def renderItems : List Json → List Char
  | [] => []
  | [item] => render item
  | item :: rest => render item ++ ',' :: renderItems rest

/-- Members with commas between them. -/
def renderMembers : List (String × Json) → List Char
  | [] => []
  | [(key, value)] => renderString key ++ ':' :: render value
  | (key, value) :: rest => renderString key ++ ':' :: render value ++ ',' :: renderMembers rest

end

/-- The compact text of a value. -/
def text (j : Json) : String := String.ofList j.render

end Json

end HealthRelay
