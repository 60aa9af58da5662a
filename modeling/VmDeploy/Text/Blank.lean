/-!
# Blank characters and trimming

A character is blank when the Unicode standard gives it the property
`White_Space`. A value that an operator types into the environment is
trimmed of such characters on both sides before it is read as a number.
-/

set_option autoImplicit false

namespace VmDeploy.Text

/-- The characters that carry the Unicode property `White_Space`. -/
def isBlank (c : Char) : Bool :=
  let n := c.toNat
  (0x09 ≤ n && n ≤ 0x0D) || n == 0x20 || n == 0x85 || n == 0xA0 || n == 0x1680
    || (0x2000 ≤ n && n ≤ 0x200A) || n == 0x2028 || n == 0x2029 || n == 0x202F
    || n == 0x205F || n == 0x3000

/-- Drops the blanks in front. -/
def trimLeft (s : List Char) : List Char := s.dropWhile isBlank

/-- Drops the blanks at the end. -/
def trimRight (s : List Char) : List Char := (s.reverse.dropWhile isBlank).reverse

/-- Drops the blanks on both sides. -/
def trim (s : List Char) : List Char := trimRight (trimLeft s)

end VmDeploy.Text
