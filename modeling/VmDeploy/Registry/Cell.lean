import VmDeploy.Json.Compact
import VmDeploy.Registry.Numeral

/-!
# Cells of a table

A cell is empty or holds a whole number of sixty-four bits, a floating-point
number or a text. A column prefers one kind: a column of numbers turns a text
that is a numeral into its number, and a floating-point number without fraction
into a whole number; a column of texts turns numbers into texts. What cannot be
turned is kept as it is.

Cells are ordered: an empty cell first, then numbers by their value, then
texts.
-/

set_option autoImplicit false

namespace VmDeploy

/-- The content of a cell. -/
inductive Cell where
  | empty
  | integer (value : Int)
  | real (value : Binary64)
  /-- A number that is too great for any other. -/
  | infinite (negative : Bool)
  | text (value : String)
  deriving DecidableEq, Repr

namespace Cell

/-- The name of the kind of a cell. -/
def typeName : Cell → String
  | .empty => "Null"
  | .integer _ => "Integer"
  | .real _ | .infinite _ => "Real"
  | .text _ => "Text"

/-- The least whole number of a cell. -/
def minInteger : Int := -0x8000000000000000

/-- The greatest whole number of a cell. -/
def maxInteger : Int := 0x7FFFFFFFFFFFFFFF

/-- A whole number that may be outside the range, where it is a floating-point number. -/
def ofInt (n : Int) : Cell :=
  if minInteger ≤ n ∧ n ≤ maxInteger then .integer n
  else ((Binary64.round? (n < 0) n.natAbs 1).map Cell.real).getD (.infinite (n < 0))

/-- The cell for a value: anything but a number or a text stands as its JSON text. -/
def ofJson : Json → Cell
  | .null => .empty
  | .number (.integer n) => .ofInt n
  | .number (.double x) => .real x
  | .string s => .text s
  | x => .text x.compact

/-- Where a cell stands among those of other kinds: a number for the kind, and one in units of
the least positive floating-point number for the value. -/
def rank : Cell → Nat × Int
  | .empty => (0, 0)
  | .infinite true => (1, 0)
  | .integer n => (2, n * Binary64.unitsOfOne)
  | .real x => (2, if x.negative then -(x.units : Int) else x.units)
  | .infinite false => (3, 0)
  | .text _ => (4, 0)

/-- Whether a cell comes before another or stands beside it. -/
def le (a b : Cell) : Bool :=
  match a, b with
  | .text s, .text t => !(t < s)
  | a, b => a.rank.1 < b.rank.1 || (a.rank.1 = b.rank.1 && a.rank.2 ≤ b.rank.2)

/-- A floating-point number as a whole number, if it is one inside the range. -/
def wholeNumber? (x : Binary64) : Option Int :=
  let whole := x.units / Binary64.unitsOfOne
  let value : Int := if x.negative then -(whole : Int) else whole
  if x.units % Binary64.unitsOfOne = 0 ∧ minInteger < value ∧ value < maxInteger then some value
  else none

/-- A floating-point number as a column of whole numbers keeps it. -/
def ofReal (x : Binary64) : Cell := ((wholeNumber? x).map Cell.integer).getD (.real x)

/-- The number that a numeral stands for. -/
def ofNumeral (n : Numeral) : Cell :=
  let computed := (n.value?.map ofReal).getD (.infinite n.negative)
  match n.whole? with
  | none => computed
  | some size =>
    let value : Int := if n.negative then -(size : Int) else size
    if minInteger ≤ value ∧ value ≤ maxInteger then .integer value else computed

/-- A cell as a column of whole numbers keeps it. -/
def inNumberColumn : Cell → Cell
  | .real x => ofReal x
  | .text s => ((Numeral.read? s).map ofNumeral).getD (.text s)
  | cell => cell

/-- A cell as a column of texts keeps it; nothing if it is empty. -/
def inTextColumn : Cell → Option String
  | .empty => none
  | .integer n => some (toString n)
  | .real x => some (Numeral.write x)
  | .infinite negative => some (if negative then "-Inf" else "Inf")
  | .text s => some s

example : (Cell.text " 12 ").inNumberColumn = .integer 12 := by decide +kernel

example : (Cell.text "1e400").inNumberColumn = .infinite false := by decide +kernel

/-- The sixteenth digit decides alone. -/
example : (Cell.ofInt 9223372036854775808).inTextColumn = some "9.22337203685478e+18" := by
  decide +kernel

end Cell

end VmDeploy
