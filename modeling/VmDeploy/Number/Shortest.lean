import VmDeploy.Number.Binary64

/-!
# The shortest decimal that reads back

Every binary64 number owns an interval of decimals that round to it: it
reaches half-way to each neighbour, and its two ends belong to it when the
mantissa is even. The number is written with the fewest digits that name a
point of this interval, and among those with the point nearest to it.

On the grid of a fixed digit count only the two grid points around the number
can be nearest, so these two are tried for one digit, two digits and so on.
Seventeen digits always suffice.
-/

set_option autoImplicit false

namespace VmDeploy

/-- The decimal `digits · 10 ^ exponent`. -/
structure DecimalNumber where
  digits : Nat
  exponent : Int
  deriving DecidableEq, Repr

/-- Moves zeros at the end of the digits into the exponent, at most `limit` of them. -/
def DecimalNumber.stripZeros (d : DecimalNumber) : (limit : Nat) → DecimalNumber
  | 0 => d
  | limit + 1 =>
    if d.digits ≠ 0 ∧ d.digits % 10 = 0 then
      DecimalNumber.stripZeros ⟨d.digits / 10, d.exponent + 1⟩ limit
    else d

namespace Binary64

/-- Whether `num / den` lies in the interval that rounds to a positive number. -/
def owns (x : Binary64) (num den : Nat) : Bool :=
  let step := Nat.pow 2 x.scale
  let middle := 4 * x.units
  let low := if x.mantissa = Nat.pow 2 52 ∧ 0 < x.scale then middle - step else middle - 2 * step
  let high := middle + 2 * step
  let point := 4 * num * unitsOfOne
  if x.mantissa % 2 = 0 then low * den ≤ point && point ≤ high * den
  else low * den < point && point < high * den

/-- How far down the first digit of a number below one stands: the least `n` from
`start` on with `den ≤ num · 10 ^ n`, looked for at most `tries` times. -/
def leadingZeros (num den : Nat) (start : Nat) : (tries : Nat) → Nat
  | 0 => start
  | tries + 1 =>
    if den ≤ num * Nat.pow 10 start then start else leadingZeros num den (start + 1) tries

/-- The power of ten just above a positive number: `10 ^ (top - 1) ≤ x < 10 ^ top`. -/
def top (x : Binary64) : Int :=
  let whole := x.units / unitsOfOne
  if whole = 0 then 1 - (leadingZeros x.units unitsOfOne 1 400 : Int)
  else (toString whole).length

/-- The decimal with so many digits that lies in the interval and nearest to the
number, if there is one. -/
def withDigits? (x : Binary64) (count : Nat) : Option DecimalNumber :=
  let exponent := x.top - count
  let up := Nat.pow 10 exponent.toNat
  let down := Nat.pow 10 (-exponent).toNat
  let num := x.units * down
  let den := unitsOfOne * up
  let below := num / den
  let above := below + 1
  let owned (d : Nat) : Bool := x.owns (d * up) down
  match owned below, owned above with
  | false, false => none
  | true, false => some ⟨below, exponent⟩
  | false, true => some ⟨above, exponent⟩
  | true, true => some ⟨divideToEven num den, exponent⟩

/-- Every digit of a number, which always reads back. -/
def exactDecimal (x : Binary64) : DecimalNumber := ⟨x.units * Nat.pow 5 unitBits, -(unitBits : Int)⟩

/-- The shortest decimal that reads back. -/
def shortest (x : Binary64) : DecimalNumber :=
  if x.isZero then ⟨0, 0⟩
  else
    let found := ((List.range 17).map (· + 1)).findSome? x.withDigits?
    (found.getD x.exactDecimal).stripZeros 1100

end Binary64

end VmDeploy
