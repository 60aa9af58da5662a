import VmDeploy.Id.Crockford
import VmDeploy.Id.Error

/-!
# Record identifiers

The registry names its records by identifiers that it mints itself: a number
of 128 bits behind a prefix. The upper 48 bits are the time of minting in
milliseconds, the others are random, so identifiers sort by their age.

A text is read if the prefix is right and exactly 26 digits follow. Twenty-six
digits carry 130 bits; the two uppermost are dropped.
-/

set_option autoImplicit false

namespace VmDeploy

/-- The identifier of a record of the registry. -/
structure RecordId where
  value : Nat
  value_lt : value < Nat.pow 2 128
  deriving DecidableEq

namespace RecordId

instance : Repr RecordId where
  reprPrec id _ := repr id.value

instance : LT RecordId := ⟨fun a b => a.value < b.value⟩

instance : LE RecordId := ⟨fun a b => a.value ≤ b.value⟩

instance (a b : RecordId) : Decidable (a < b) := inferInstanceAs (Decidable (a.value < b.value))

instance (a b : RecordId) : Decidable (a ≤ b) := inferInstanceAs (Decidable (a.value ≤ b.value))

/-- Identifiers in ascending order, the oldest first. -/
def sort (ids : List RecordId) : List RecordId := ids.mergeSort fun a b => a ≤ b

/-- What stands before the separator. -/
def kindPrefix : String := "disk"

/-- The number of digits behind the separator. -/
def digitCount : Nat := 26

/-- The identifier of a number, of which the lower 128 bits count. -/
def ofNat (n : Nat) : RecordId := ⟨n % Nat.pow 2 128, Nat.mod_lt _ (by decide)⟩

instance : Inhabited RecordId := ⟨ofNat 0⟩

/-- A fresh identifier, from the time in milliseconds and random bits. -/
def mint (millis random : Nat) : RecordId := 
  ofNat (millis % Nat.pow 2 48 * Nat.pow 2 80 + random % Nat.pow 2 80)

/-- The time of minting in milliseconds. -/
def timestamp (id : RecordId) : Nat := id.value / Nat.pow 2 80

/-- The digits of the number. -/
def digits (id : RecordId) : List Char := Crockford.encode digitCount id.value

/-- The text of an identifier. -/
def text (id : RecordId) : String := kindPrefix ++ "_" ++ String.ofList id.digits

/-- The characters before the first underscore and those behind it. -/
def splitSeparator : List Char → Option (List Char × List Char)
  | [] => none
  | c :: rest =>
    if c = '_' then some ([], rest)
    else (splitSeparator rest).map fun (before, behind) => (c :: before, behind)

/-- How many bytes characters take. -/
def byteCount (s : List Char) : Nat := s.foldr (fun c n => c.utf8Size + n) 0

/-- Reads the digits behind the separator. Their count is taken in bytes. -/
def parseDigits (s : List Char) : Except UlidFault RecordId :=
  if byteCount s ≠ digitCount then .error .length
  else
    match Crockford.decode? s with
    | none => .error .character
    | some n => .ok (ofNat n)

/-- Reads an identifier. -/
def parse (s : String) : Except IdError RecordId :=
  if s.isEmpty then .error .empty
  else
    match splitSeparator s.toList with
    | none => .error .missingSeparator
    | some (before, behind) =>
      if before ≠ kindPrefix.toList then
        .error (.wrongPrefix kindPrefix (String.ofList before))
      else (parseDigits behind).mapError .invalidUlid

/-- An identifier is that of its number. -/
theorem ofNat_value (id : RecordId) : ofNat id.value = id := by
  cases id with
  | mk value value_lt =>
    unfold ofNat
    congr 1
    exact Nat.mod_eq_of_lt value_lt

/-- The digits of an identifier read back as the identifier. -/
theorem ofNat_decode_digits (id : RecordId) :
    (Crockford.decode? id.digits).map ofNat = some id := by
  have small : id.value % Nat.pow 32 digitCount = id.value :=
    Nat.mod_eq_of_lt (Nat.lt_of_lt_of_le id.value_lt (by decide))
  unfold Crockford.decode? digits
  rw [Crockford.decodeFrom_encode, Nat.zero_mul, Nat.zero_add, small]
  exact congrArg some (ofNat_value id)

end RecordId

end VmDeploy
