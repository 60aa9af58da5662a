/-!
# Crockford's base 32

A number in thirty-two digits: the decimal digits and the letters without `I`,
`L`, `O` and `U`, in ascending order. Letters are read in either case and
written as capitals.
-/

set_option autoImplicit false

namespace VmDeploy.Crockford

/-- The digits in ascending order. -/
def alphabet : List Char := "0123456789ABCDEFGHJKMNPQRSTVWXYZ".toList

/-- The digit of a value below thirty-two. -/
def digit (n : Nat) : Char := alphabet.getD n '0'

/-- The place of a character in a list. -/
def place? (c : Char) : List Char → Option Nat
  | [] => none
  | d :: rest => if c = d then some 0 else (place? c rest).map (· + 1)

/-- The value of a digit of either case. -/
def value? (c : Char) : Option Nat := place? c.toUpper alphabet

/-- The last `count` digits of a number. -/
def encode : (count : Nat) → Nat → List Char
  | 0, _ => []
  | count + 1, n => encode count (n / 32) ++ [digit (n % 32)]

/-- The number that digits spell behind a number read so far. -/
def decodeFrom (value : Nat) : List Char → Option Nat
  | [] => some value
  | c :: rest => do decodeFrom (value * 32 + (← value? c)) rest

/-- The number that digits spell. -/
def decode? (digits : List Char) : Option Nat := decodeFrom 0 digits

/-- So many digits are written. -/
@[simp] theorem length_encode (count n : Nat) : (encode count n).length = count := by
  induction count generalizing n with
  | zero => rfl
  | succ count ih => simp [encode, ih]

/-- Every digit is read back. -/
theorem value?_digit {n : Nat} (h : n < 32) : value? (digit n) = some n := by
  have all : ∀ m : Fin 32, value? (digit m) = some m.val := by decide
  exact all ⟨n, h⟩

/-- Reading goes on behind what was read. -/
theorem decodeFrom_append (value : Nat) (s t : List Char) :
    decodeFrom value (s ++ t) = (decodeFrom value s).bind fun n => decodeFrom n t := by
  induction s generalizing value with
  | nil => rfl
  | cons c rest ih =>
    simp only [List.cons_append, decodeFrom]
    cases value? c with
    | none => rfl
    | some d => exact ih (value * 32 + d)

/-- The digits that are written read back as the number, as far as they reach. -/
theorem decodeFrom_encode (count value n : Nat) :
    decodeFrom value (encode count n)
      = some (value * Nat.pow 32 count + n % Nat.pow 32 count) := by
  induction count generalizing n with
  | zero => simp [encode, decodeFrom, Nat.mod_one]
  | succ count ih =>
    have digitValue : value? (digit (n % 32)) = some (n % 32) :=
      value?_digit (Nat.mod_lt _ (by decide))
    have power : Nat.pow 32 (count + 1) = Nat.pow 32 count * 32 := rfl
    have split : n % Nat.pow 32 (count + 1) = n / 32 % Nat.pow 32 count * 32 + n % 32 := by
      rw [power, Nat.mul_comm (Nat.pow 32 count), Nat.mod_mul, Nat.mul_comm, Nat.add_comm]
    simp only [encode, decodeFrom_append, ih, Option.bind, decodeFrom, digitValue, bind, split]
    rw [power, ← Nat.mul_assoc, Nat.add_mul, Nat.add_assoc]

end VmDeploy.Crockford
