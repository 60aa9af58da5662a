/-!
# Bytes as hexadecimal text

Two lower-case digits a byte, the form in which digests are shown and raw
bytes are handed over. Reading takes digits of either case.
-/

set_option autoImplicit false

namespace VmDeploy.Text.Hex

/-- The digit of a value below sixteen. -/
def digit (n : Nat) : Char :=
  if n < 10 then Char.ofNat ('0'.toNat + n) else Char.ofNat ('a'.toNat + (n - 10))

/-- The value of a digit of either case. -/
def value? (c : Char) : Option Nat :=
  if '0' ≤ c ∧ c ≤ '9' then some (c.toNat - '0'.toNat)
  else if 'a' ≤ c ∧ c ≤ 'f' then some (c.toNat - 'a'.toNat + 10)
  else if 'A' ≤ c ∧ c ≤ 'F' then some (c.toNat - 'A'.toNat + 10)
  else none

/-- Two digits for each byte, the high one first. -/
def encode (bytes : List UInt8) : List Char :=
  bytes.flatMap fun b => [digit (b.toNat / 16), digit (b.toNat % 16)]

/-- Reads pairs of digits; refuses an odd count and anything that is no digit. -/
def decode? : List Char → Option (List UInt8)
  | [] => some []
  | [_] => none
  | a :: b :: rest => do
    let high ← value? a
    let low ← value? b
    let tail ← decode? rest
    return UInt8.ofNat (16 * high + low) :: tail

/-- The hexadecimal digits of a number without leading zeros. -/
def ofNat (n : Nat) : List Char :=
  (Nat.toDigits 16 n)

end VmDeploy.Text.Hex
