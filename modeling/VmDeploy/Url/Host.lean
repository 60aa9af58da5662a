import VmDeploy.Domain.Name
import VmDeploy.Text.Utf8

/-!
# Hosts of URLs

A host is a name or an address. A name that ends in a number has to be an
address of four parts, of which the last may stand for several and each may be
written in one of three bases; an address in brackets has eight groups, of
which one run may be left out. Addresses are written in their usual notation,
however they were spelled.
-/

set_option autoImplicit false

namespace VmDeploy

/-- Why a text is no URL. -/
inductive UrlError where
  | relativeWithoutBase
  | emptyHost
  | invalidPort
  | invalidIpv4
  | invalidIpv6
  | invalidName
  | invalidCharacter
  deriving DecidableEq, Repr

/-- The wording of an error. -/
def UrlError.message : UrlError → String
  | .relativeWithoutBase => "relative URL without a base"
  | .emptyHost => "empty host"
  | .invalidPort => "invalid port number"
  | .invalidIpv4 => "invalid IPv4 address"
  | .invalidIpv6 => "invalid IPv6 address"
  | .invalidName => "invalid international domain name"
  | .invalidCharacter => "invalid domain character"

namespace Url

/-- The parts of a text between occurrences of a character. -/
def splitAt (separator : Char) : List Char → List (List Char)
  | [] => [[]]
  | c :: rest =>
    if c = separator then [] :: splitAt separator rest
    else
      match splitAt separator rest with
      | [] => [[c]]
      | part :: others => (c :: part) :: others

/-- The number that digits of a base spell. -/
def numberIn (base : Nat) (digits : List Char) : Option Nat :=
  digits.foldlM (fun n c => do
    let d ← Text.Hex.value? c
    if d < base then some (n * base + d) else none) 0

/-- A part of an address: hexadecimal behind `0x`, octal behind `0`, else decimal. -/
def addressPart? : List Char → Option Nat
  | [] => none
  | '0' :: 'x' :: digits | '0' :: 'X' :: digits => numberIn 16 digits
  | '0' :: d :: digits => numberIn 8 (d :: digits)
  | digits => numberIn 10 digits

/-- The parts of a name, without an empty one at the end. -/
def nameParts (name : List Char) : List (List Char) :=
  let parts := splitAt '.' name
  if 1 < parts.length ∧ parts.getLast? = some [] then parts.dropLast else parts

/-- Whether a name ends in a number. -/
def endsInNumber (name : List Char) : Bool :=
  match (nameParts name).getLast? with
  | none | some [] => false
  | some last =>
    last.all (fun c => (Text.Decimal.digit? c).isSome)
      || ((last.take 2 = ['0', 'x'] || last.take 2 = ['0', 'X'])
        && (addressPart? last).isSome)

/-- The address that a name spells, in its usual notation. -/
def ipv4 (name : List Char) : Except UrlError (List Char) :=
  let parts := nameParts name
  match parts.mapM addressPart? with
  | none => .error .invalidIpv4
  | some numbers =>
    let last := numbers.getLast?.getD 0
    let front := numbers.dropLast
    if 4 < numbers.length ∨ front.any (255 < ·) ∨ Nat.pow 256 (4 - front.length) ≤ last then
      .error .invalidIpv4
    else
      let value := front.foldl (fun n part => n * 256 + part) 0
        * Nat.pow 256 (4 - front.length) + last
      let texts := [3, 2, 1, 0].map fun i => value / Nat.pow 256 i % 256
      .ok (List.intercalate ['.'] (texts.map fun n => (toString n).toList))

/-- The value of a group of an address in brackets. -/
def group? (s : List Char) : Option Nat :=
  if s.isEmpty ∨ 4 < s.length then none else numberIn 16 s

/-- A decimal number below 256 without leading zeros. -/
def octet? : List Char → Option Nat
  | [] => none
  | ['0'] => some 0
  | '0' :: _ => none
  | digits => (numberIn 10 digits).filter (· ≤ 255)

/-- The last two groups of an address, written as four numbers. -/
def dottedQuad? (s : List Char) : Option (List Nat) :=
  match (splitAt '.' s).mapM octet? with
  | some [a, b, c, d] => some [256 * a + b, 256 * c + d]
  | _ => none

/-- The values of a run of groups. -/
def groups? (s : List Char) : Option (List Nat) :=
  if s.isEmpty then some []
  else do
    let parts := splitAt ':' s
    let last ← parts.getLast?
    let front ← parts.dropLast.mapM group?
    let behind ← (group? last).map ([·]) <|> dottedQuad? last
    return front ++ behind

/-- What stands before and behind the first two colons in a row. -/
def splitRun : List Char → Option (List Char × List Char)
  | [] => none
  | [_] => none
  | ':' :: ':' :: rest => some ([], rest)
  | c :: rest => (splitRun rest).map fun (before, behind) => (c :: before, behind)

/-- The eight groups of an address in brackets. Two colons in a row stand for at least one group,
and four decimal numbers only for the last two. -/
def ipv6? (s : List Char) : Option (List Nat) :=
  match splitRun s with
  | none => (groups? s).filter (·.length = 8)
  | some (before, behind) => do
    let front ← groups? before
    let back ← groups? behind
    if front.length + back.length ≤ 7 ∧ ¬ before.contains '.' then
      return front ++ List.replicate (8 - (front.length + back.length)) 0 ++ back
    else none

/-- Where the first of the longest runs of zeros begins and how many there are. -/
def longestRun (groups : List Nat) : Nat × Nat :=
  (List.range groups.length).foldl (fun best start =>
    let length := ((groups.drop start).takeWhile (· = 0)).length
    if best.2 < length then (start, length) else best) (0, 0)

/-- Groups with a colon between two. -/
def writeGroups (groups : List Nat) : List Char :=
  List.intercalate [':'] (groups.map Text.Hex.ofNat)

/-- The shortest notation of an address: the first of the longest runs of zeros is left out, but
not a zero that stands alone. -/
def writeIpv6 (groups : List Nat) : List Char :=
  let (start, length) := longestRun groups
  if length < 2 then writeGroups groups
  else
    writeGroups (groups.take start) ++ [':', ':'] ++ writeGroups (groups.drop (start + length))

/-- The byte that two digits name. -/
def byteOf? (high low : UInt8) : Option UInt8 := do
  let h ← Text.Hex.value? (Char.ofNat high.toNat)
  let l ← Text.Hex.value? (Char.ofNat low.toNat)
  return UInt8.ofNat (16 * h + l)

/-- Decodes bytes that are written as a percent sign and two digits. -/
def percentDecode : List UInt8 → List UInt8
  | [] => []
  | 0x25 :: high :: low :: rest =>
    match byteOf? high low with
    | some b => b :: percentDecode rest
    | none => 0x25 :: percentDecode (high :: low :: rest)
  | b :: rest => b :: percentDecode rest

/-- Characters that the host of an unknown scheme cannot have. -/
def forbiddenInHost (c : Char) : Bool :=
  c.toNat = 0 || "\t\n\r #/:<>?@[\\]^|".toList.contains c

/-- An address in brackets, in its shortest notation. -/
def bracketed (s : List Char) : Except UrlError (List Char) :=
  match ipv6? (s.drop 1).dropLast with
  | some groups =>
    if s.getLast? = some ']' then .ok ('[' :: writeIpv6 groups ++ [']']) else .error .invalidIpv6
  | none => .error .invalidIpv6

/-- Reads a host. -/
def readHost (s : List Char) : Except UrlError (List Char) :=
  if s.head? = some '[' then bracketed s
  else
    let bytes := percentDecode (Text.Utf8.encode (String.ofList s))
    match (Text.Utf8.decode? bytes).bind fun decoded => Domain.toAscii decoded.toList with
    | none => .error .invalidName
    | some name =>
      if name.isEmpty then .error .emptyHost
      else if endsInNumber name then ipv4 name
      else .ok name

/-- Reads the host of a scheme that is not known. -/
def readUnknownHost (s : List Char) : Except UrlError (List Char) :=
  if s.head? = some '[' then bracketed s
  else if s.any forbiddenInHost then .error .invalidCharacter
  else .ok s

end Url

end VmDeploy
