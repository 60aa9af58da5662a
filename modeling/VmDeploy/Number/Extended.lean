import VmDeploy.Number.Binary64

/-!
# Floating-point numbers for intermediate results

Numbers that are not negative, with sixty-four bits of mantissa: eleven more
than binary64 has. A product is exact first and rounded once, to the nearest
number and to the even mantissa on a tie. The scale has no bounds, so nothing
overflows on the way; a result is brought into the range of binary64 last.
-/

set_option autoImplicit false

namespace VmDeploy

/-- The number `mantissa · 2 ^ scale`. -/
structure Extended where
  mantissa : Nat
  scale : Int
  deriving DecidableEq, Repr, Inhabited

namespace Extended

/-- How many bits a mantissa has. -/
def precision : Nat := 64

/-- The number nearest to `n · 2 ^ scale`. -/
def ofScaled (n : Nat) (scale : Int) : Extended :=
  let excess := n.log2 + 1 - precision
  ⟨Binary64.divideToEven n (Nat.pow 2 excess), scale + excess⟩

/-- The number nearest to a whole number. -/
def ofNat (n : Nat) : Extended := ofScaled n 0

/-- The number nearest to `1 / den`; the divisor is no power of two. -/
def inverse (den : Nat) : Extended :=
  let shift := precision + den.log2
  ⟨Binary64.divideToEven (Nat.pow 2 shift) den, -(shift : Int)⟩

/-- The number nearest to a power of ten. -/
def powerOfTen (exponent : Int) : Extended :=
  if exponent < 0 then inverse (Nat.pow 10 exponent.natAbs) else ofNat (Nat.pow 10 exponent.toNat)

/-- A binary64 number without its sign. -/
def ofBinary64 (x : Binary64) : Extended := ⟨x.mantissa, (x.scale : Int) - Binary64.unitBits⟩

/-- The rounded product. -/
def mul (x y : Extended) : Extended := ofScaled (x.mantissa * y.mantissa) (x.scale + y.scale)

/-- Whether a number is less than another. -/
def lt (x y : Extended) : Bool :=
  let shift := x.scale - y.scale
  x.mantissa * Nat.pow 2 shift.toNat < y.mantissa * Nat.pow 2 (-shift).toNat

/-- The whole part of a number. -/
def floor (x : Extended) : Nat :=
  x.mantissa * Nat.pow 2 x.scale.toNat / Nat.pow 2 (-x.scale).toNat

/-- The greatest binary64 number. -/
def greatest : Extended := ⟨Nat.pow 2 53 - 1, 971⟩

/-- The nearest binary64 number of a sign; none above the greatest. -/
def toBinary64? (negative : Bool) (x : Extended) : Option Binary64 :=
  if greatest.lt x then none
  else
    Binary64.round? negative (x.mantissa * Nat.pow 2 x.scale.toNat) (Nat.pow 2 (-x.scale).toNat)

/-- A number that is shifted by decimal places, in steps of a hundred, ten and one. -/
def shiftDecimal (x : Extended) (places : Int) : Extended :=
  let step (size : Int) : Extended → Extended :=
    (·.mul (powerOfTen (if places < 0 then -size else size)))
  let n := places.natAbs
  Nat.repeat (step 1) (n % 10) (Nat.repeat (step 10) (n % 100 / 10) (Nat.repeat (step 100) (n / 100) x))

/-- A tenth has the mantissa that its nearest number has. -/
example : powerOfTen (-1) = ⟨14757395258967641293, -67⟩ := by decide +kernel

/-- A product that needs no more bits is exact. -/
example : (ofNat 3).mul (powerOfTen 2) = ofNat 300 := by decide +kernel

example : ((shiftDecimal (ofNat 15) (-1)).toBinary64? false) = Binary64.round? false 3 2 := by
  decide +kernel

end Extended

end VmDeploy
