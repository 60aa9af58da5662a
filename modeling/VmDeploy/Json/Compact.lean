import VmDeploy.Json.Basic
import VmDeploy.Number.Shortest
import VmDeploy.Text.Hex

/-!
# Compact JSON text

One line without blanks. A string escapes the quote, the backslash and the
control characters and nothing else. A whole number is written in decimal. A
floating-point number is written with the fewest digits that read back and
always shows that it is one: by a point, or by an exponent where the decimal
point would stand more than sixteen digits from the front or more than four
zeros behind the point.

The canonical text of a value is the compact text of its normal form, so that
values that differ in the order of their entries share it.
-/

set_option autoImplicit false

namespace VmDeploy.Json

/-- How one character stands in a string. -/
def escape (c : Char) : List Char :=
  if c = '"' then ['\\', '"']
  else if c = '\\' then ['\\', '\\']
  else if c = '\x08' then ['\\', 'b']
  else if c = '\t' then ['\\', 't']
  else if c = '\n' then ['\\', 'n']
  else if c = '\x0c' then ['\\', 'f']
  else if c = '\r' then ['\\', 'r']
  else if c.toNat < 0x20 then
    ['\\', 'u', '0', '0', Text.Hex.digit (c.toNat / 16), Text.Hex.digit (c.toNat % 16)]
  else [c]

/-- A string between its quotes. -/
def quoted (s : String) : List Char := '"' :: s.toList.flatMap escape ++ ['"']

/-- The text of a positive decimal in the notation for floating-point numbers. -/
def decimalText (d : DecimalNumber) : List Char :=
  let digits := (toString d.digits).toList
  let point : Int := digits.length + d.exponent
  if 0 ≤ d.exponent ∧ point ≤ 16 then
    digits ++ List.replicate d.exponent.toNat '0' ++ ['.', '0']
  else if 0 < point ∧ point ≤ 16 then
    digits.take point.toNat ++ '.' :: digits.drop point.toNat
  else if -5 < point ∧ point ≤ 0 then
    '0' :: '.' :: List.replicate (-point).toNat '0' ++ digits
  else
    let sign := if 0 < point then ['+'] else []
    let exponent := 'e' :: sign ++ (toString (point - 1)).toList
    match digits with
    | [] => exponent
    | [d] => d :: exponent
    | d :: rest => d :: '.' :: rest ++ exponent

/-- The text of a floating-point number. -/
def doubleText (x : Binary64) : List Char :=
  let sign := if x.negative then ['-'] else []
  if x.isZero then sign ++ ['0', '.', '0'] else sign ++ decimalText x.shortest

/-- The text of a number. -/
def numberText : JsonNumber → List Char
  | .integer n => (toString n).toList
  | .double x => doubleText x

mutual

/-- The characters of the compact text. -/
def write : Json → List Char
  | .null => ['n', 'u', 'l', 'l']
  | .bool true => ['t', 'r', 'u', 'e']
  | .bool false => ['f', 'a', 'l', 's', 'e']
  | .number n => numberText n
  | .string s => quoted s
  | .array items => '[' :: writeItems true items ++ [']']
  | .object fields => '\x7b' :: writeFields true fields ++ ['\x7d']

/-- The items of an array, each but the first behind a comma. -/
def writeItems (first : Bool) : List Json → List Char
  | [] => []
  | x :: rest => (if first then [] else [',']) ++ write x ++ writeItems false rest

/-- The entries of an object, each but the first behind a comma. -/
def writeFields (first : Bool) : List (String × Json) → List Char
  | [] => []
  | (key, x) :: rest =>
    (if first then [] else [',']) ++ quoted key ++ ':' :: write x ++ writeFields false rest

end

/-- The compact text of a value. -/
def compact (x : Json) : String := String.ofList x.write

/-- The text that a value shares with every value that differs from it in the order
of entries alone. -/
def canonical (x : Json) : String := x.normalize.compact

end VmDeploy.Json
