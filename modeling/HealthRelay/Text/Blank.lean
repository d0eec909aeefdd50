/-!
Blank characters: white space in the sense of the Unicode property of that name.
-/

namespace HealthRelay.Text

/-- White space, in any script. -/
def isBlank (c : Char) : Bool :=
  let n := c.toNat
  (0x9 ≤ n && n ≤ 0xd) || n == 0x20 || n == 0x85 || n == 0xa0 || n == 0x1680 ||
    (0x2000 ≤ n && n ≤ 0x200a) || n == 0x2028 || n == 0x2029 || n == 0x202f || n == 0x205f ||
    n == 0x3000

/-- What is left after the leading blanks. -/
def dropBlank (s : List Char) : List Char := s.dropWhile isBlank

/-- What is left without the blanks at either end. -/
def trim (s : List Char) : List Char := (dropBlank (dropBlank s).reverse).reverse

end HealthRelay.Text
