/-!
# Binary floating-point numbers

The finite numbers of the binary64 format, as exact whole numbers. A number is
`± mantissa · 2 ^ scale` in units of `2 ^ -1074`, the smallest positive number
of the format, so that every finite number is a whole count of units and no
operation leaves the natural numbers.

Multiplication and division are exact first and rounded once, to the nearest
number and to the even mantissa on a tie. Where the rounded result has no
finite number there is no result.
-/

set_option autoImplicit false

namespace VmDeploy

/-- A mantissa and a scale that the format has: fifty-three bits, of which the
highest is set unless the scale is the lowest, and a scale of eleven bits. -/
def Binary64.Representable (mantissa scale : Nat) : Prop :=
  mantissa < Nat.pow 2 53 ∧ (scale = 0 ∨ Nat.pow 2 52 ≤ mantissa) ∧ scale ≤ 2045

instance (mantissa scale : Nat) : Decidable (Binary64.Representable mantissa scale) :=
  inferInstanceAs (Decidable (_ ∧ _))

/-- A finite binary64 number; zero has two signs. -/
structure Binary64 where
  negative : Bool
  mantissa : Nat
  scale : Nat
  representable : Binary64.Representable mantissa scale
  deriving DecidableEq

namespace Binary64

instance : Repr Binary64 where
  reprPrec x _ := repr (x.negative, x.mantissa, x.scale)

/-- How many powers of two lie between a unit and one. -/
def unitBits : Nat := 1074

/-- One in units. -/
def unitsOfOne : Nat := Nat.pow 2 unitBits

/-- Zero of either sign. -/
def zero (negative : Bool) : Binary64 := ⟨negative, 0, 0, by decide⟩

instance : Inhabited Binary64 := ⟨zero false⟩

/-- The distance from zero in units. -/
def units (x : Binary64) : Nat := x.mantissa * Nat.pow 2 x.scale

/-- Whether the number is a zero of either sign. -/
def isZero (x : Binary64) : Bool := x.mantissa == 0

/-- The number of the other sign. -/
def neg (x : Binary64) : Binary64 := { x with negative := !x.negative }

/-- Equality of values: the two zeros are the same value. -/
def sameValue (x y : Binary64) : Bool := x = y || (x.isZero && y.isZero)

/-- The nearest whole number to a quotient, the even one on a tie. -/
def divideToEven (num den : Nat) : Nat :=
  let q := num / den
  let twice := 2 * (num % den)
  if twice < den then q
  else if den < twice then q + 1
  else if q % 2 = 0 then q
  else q + 1

/-- The number that a mantissa and a scale spell, if the format has it. -/
def ofParts? (negative : Bool) (mantissa scale : Nat) : Option Binary64 :=
  if h : Representable mantissa scale then some ⟨negative, mantissa, scale, h⟩ else none

/-- The number nearest to `num / den`; there is none beyond the largest. -/
def round? (negative : Bool) (num den : Nat) : Option Binary64 :=
  let scaled := num * unitsOfOne
  let whole := scaled / den
  let scale := if whole < Nat.pow 2 53 then 0 else whole.log2 - 52
  let mantissa := divideToEven scaled (den * Nat.pow 2 scale)
  if mantissa = Nat.pow 2 53 then ofParts? negative (Nat.pow 2 52) (scale + 1)
  else ofParts? negative mantissa scale

/-- The number nearest to a whole number. -/
def ofNat? (n : Nat) : Option Binary64 := round? false n 1

/-- The rounded product. -/
def mul? (x y : Binary64) : Option Binary64 :=
  round? (x.negative != y.negative) (x.units * y.units) (unitsOfOne * unitsOfOne)

/-- The rounded quotient; dividing by zero has no finite result. -/
def div? (x y : Binary64) : Option Binary64 :=
  if y.isZero then none else round? (x.negative != y.negative) x.units y.units

/-- The number nearest to a power of ten. -/
def powerOfTen? (n : Nat) : Option Binary64 := ofNat? (Nat.pow 10 n)

/-- The largest power of ten that the format reaches. -/
def maxPowerOfTen : Nat := 308

/-- Divides by a power of ten, in steps that the format reaches. -/
def divideByPowerOfTen? (x : Binary64) (n : Nat) : Option Binary64 := do
  if n ≤ maxPowerOfTen then x.div? (← powerOfTen? n)
  else if x.isZero then return x
  else (← x.div? (← powerOfTen? maxPowerOfTen)).divideByPowerOfTen? (n - maxPowerOfTen)
  termination_by n
  decreasing_by
    have : maxPowerOfTen = 308 := rfl
    omega

/-- A whole number times a power of ten, rounded at each of its steps: the whole
number, the power, and the product or quotient of the two. -/
def ofDecimal? (negative : Bool) (significand : Nat) (exponent : Int) : Option Binary64 := do
  let x ← ofNat? significand
  let scaled ←
    if exponent < 0 then x.divideByPowerOfTen? exponent.natAbs
    else if exponent ≤ maxPowerOfTen then x.mul? (← powerOfTen? exponent.toNat)
    else if x.isZero then pure x
    else none
  return if negative then scaled.neg else scaled

/-- A number is its own value. -/
theorem sameValue_refl (x : Binary64) : x.sameValue x = true := by simp [sameValue]

/-- One is a power of two in units. -/
example : (ofNat? 1).map units = some unitsOfOne := by decide +kernel

/-- A tenth has the mantissa that its nearest number has. -/
example : ((round? false 1 10).map fun x => (x.mantissa, x.scale))
    = some (7205759403792794, 1018) := by
  decide +kernel

end Binary64

end VmDeploy
