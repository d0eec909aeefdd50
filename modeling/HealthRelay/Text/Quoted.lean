import HealthRelay.Text.Unprintable

/-!
Quoted text, as messages show a value given by the user: between double quotes, with escapes for
the quote, the backslash, the common controls and everything that would not be seen.
-/

namespace HealthRelay.Text

/-- One character inside quoted text. -/
def escape (c : Char) : List Char :=
  if c = '\x00' then ['\\', '0']
  else if c = '\t' then ['\\', 't']
  else if c = '\r' then ['\\', 'r']
  else if c = '\n' then ['\\', 'n']
  else if c = '"' then ['\\', '"']
  else if c = '\\' then ['\\', '\\']
  else if isUnprintable c then
    ['\\', 'u', '\x7b'] ++ Nat.toDigits 16 c.toNat ++ ['\x7d']
  else [c]

/-- The text between double quotes, every character escaped that needs it. -/
def quoted (s : String) : String :=
  String.ofList ('"' :: s.toList.flatMap escape ++ ['"'])

end HealthRelay.Text
