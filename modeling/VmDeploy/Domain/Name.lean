import VmDeploy.Domain.Composition
import VmDeploy.Domain.Direction
import VmDeploy.Domain.Joining
import VmDeploy.Domain.Mapping
import VmDeploy.Domain.Mark
import VmDeploy.Domain.Punycode

/-!
# Domain names

A domain name is written in any script and looked up in ASCII. `toAscii`
brings a name into its usual form, looks whether each label is one that may be,
and writes the labels that are not ASCII in ASCII. A label that was written so
already is looked at in the script that it stands for.
-/

set_option autoImplicit false

namespace VmDeploy.Domain

/-- The ASCII characters that no name has. -/
def isForbidden (c : Char) : Bool :=
  c.toNat ≤ 0x20 || c.toNat = 0x7f || "%#/:<>?@[\\]^|".toList.contains c

/-- Whether a character is one of ASCII. -/
def isAscii (c : Char) : Bool := c.toNat < 0x80

/-- What stands in front of a label that is written in ASCII. -/
def asciiMark : List Char := ['x', 'n', '-', '-']

/-- A label in ASCII has at most so many characters behind the mark. -/
def longestAscii : Nat := 2000

/-- A label that is written in ASCII has at most so many characters. -/
def longestLabel : Nat := 1000

/-- The labels of a name. -/
def labels : List Char → List (List Char)
  | [] => [[]]
  | c :: rest =>
    if c = '.' then [] :: labels rest
    else
      match labels rest with
      | [] => [[c]]
      | label :: others => (c :: label) :: others

/-- The label that a label stands for. -/
def meaning? (label : List Char) : Option (List Char) :=
  if asciiMark.isPrefixOf label then
    let behind := label.drop asciiMark.length
    if behind.isEmpty ∨ behind.getLast? = some '-' ∨ longestAscii < behind.length then none
    else do
      let decoded ← Punycode.decode? behind
      if decoded.all isValid ∧ compose decoded = decoded then return decoded else none
  else some label

/-- Whether a label may be: it begins with no mark, and its joiners have a place. -/
def isLabel (label : List Char) : Bool :=
  !label.head?.any isMark && Joining.allPlaced [] label

/-- Whether labels keep their directions, if one of them runs to the left. -/
def keepDirections (labels : List (List Char)) : Bool :=
  let directions := labels.map fun label => label.map Direction.of
  directions.all (fun label => !label.any Direction.runsLeft) || directions.all Direction.consistent

/-- A label in ASCII; none if it is too long for it. -/
def asciiLabel? (label : List Char) : Option (List Char) :=
  if label.all isAscii then some label
  else if longestLabel < label.length then none
  else some (asciiMark ++ Punycode.encode label)

/-- A name in ASCII; none if it is no name. -/
def toAscii (name : List Char) : Option (List Char) := do
  let usual := compose (← forms? name)
  if usual.any isForbidden then none
  else
    let written := labels usual
    let meant ← written.mapM meaning?
    if meant.all isLabel ∧ keepDirections meant then
      return List.intercalate ['.'] (← written.mapM asciiLabel?)
    else none

end VmDeploy.Domain
