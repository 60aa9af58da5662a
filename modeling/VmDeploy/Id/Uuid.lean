import VmDeploy.Text.Hex

/-!
# UUIDs

Sixteen bytes in thirty-two hexadecimal digits. A UUID is read with or without
hyphens; with them it may stand in braces or behind the scheme of its URN. It
is written with hyphens in lower case.
-/

set_option autoImplicit false

namespace VmDeploy

/-- A UUID as its bytes. -/
structure Uuid where
  bytes : List UInt8
  deriving DecidableEq, Repr

namespace Uuid

/-- The lengths of the groups between the hyphens. -/
def groupLengths : List Nat := [8, 4, 4, 4, 12]

/-- The groups of digits, each but the first behind a hyphen. -/
def readGroups : (lengths : List Nat) → (first : Bool) → List Char → Option (List Char)
  | [], _, [] => some []
  | [], _, _ :: _ => none
  | n :: rest, true, s => do
    let tail ← readGroups rest false (s.drop n)
    return s.take n ++ tail
  | n :: rest, false, '-' :: s => do
    let tail ← readGroups rest false (s.drop n)
    return s.take n ++ tail
  | _ :: _, false, _ => none

/-- The UUID of thirty-two digits. -/
def ofDigits (digits : List Char) : Option Uuid :=
  if digits.length = 32 then (Text.Hex.decode? digits).map Uuid.mk else none

/-- The UUID of digits in hyphened groups. -/
def ofHyphened (s : List Char) : Option Uuid :=
  if s.length = 36 then (readGroups groupLengths true s).bind ofDigits else none

/-- What stands in front of a UUID as a URN. -/
def urnScheme : List Char := "urn:uuid:".toList

/-- The characters between braces. -/
def insideBraces (s : List Char) : Option (List Char) :=
  match s, s.getLast? with
  | '\x7b' :: rest, some '\x7d' => some rest.dropLast
  | _, _ => none

/-- Reads a UUID. -/
def parse (text : String) : Option Uuid :=
  let s := text.toList
  if s.length = 32 then ofDigits s
  else if s.length = 36 then ofHyphened s
  else if s.length = 38 then (insideBraces s).bind ofHyphened
  else if s.length = 45 then if s.take 9 = urnScheme then ofHyphened (s.drop 9) else none
  else none

/-- The groups of digits with their hyphens. -/
def writeGroups : (lengths : List Nat) → List Char → List Char
  | [], _ => []
  | [n], digits => digits.take n
  | n :: rest, digits => digits.take n ++ '-' :: writeGroups rest (digits.drop n)

/-- The text of a UUID. -/
def text (id : Uuid) : String :=
  String.ofList (writeGroups groupLengths (Text.Hex.encode id.bytes))

example : (parse "\x7b67E55044-10B1-426F-9247-BB680E5FE0C8\x7d").map text
    = some "67e55044-10b1-426f-9247-bb680e5fe0c8" := by
  decide +kernel

end Uuid

end VmDeploy
