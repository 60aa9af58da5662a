/-!
# Numbers that an operator types

An unsigned decimal number, with one plus sign allowed in front, below a given
bound. What is wrong with a text is found reading from the left: a character
that is no digit and a value that has grown too large are both reported where
they are met, whichever comes first.
-/

set_option autoImplicit false

namespace VmDeploy.Text.Decimal

/-- Why a text is not a number that fits. -/
inductive Fault where
  | empty
  | invalidDigit
  | tooLarge
  deriving DecidableEq, Repr

/-- The wording of a fault. -/
def Fault.message : Fault → String
  | .empty => "cannot parse integer from empty string"
  | .invalidDigit => "invalid digit found in string"
  | .tooLarge => "number too large to fit in target type"

/-- The value of a digit. -/
def digit? (c : Char) : Option Nat :=
  if '0' ≤ c ∧ c ≤ '9' then some (c.toNat - '0'.toNat) else none

/-- Reads digits from the left behind a value read so far; the value stays below `bound`. -/
def readDigits (bound : Nat) (value : Nat) : List Char → Except Fault Nat
  | [] => .ok value
  | c :: rest =>
    match digit? c with
    | none => .error .invalidDigit
    | some d =>
      if value * 10 + d < bound then readDigits bound (value * 10 + d) rest
      else .error .tooLarge

/-- Reads an unsigned number below `bound`. -/
def readUnsigned (bound : Nat) : List Char → Except Fault Nat
  | [] => .error .empty
  | ['+'] => .error .invalidDigit
  | '+' :: digits => readDigits bound 0 digits
  | digits => readDigits bound 0 digits

end VmDeploy.Text.Decimal
