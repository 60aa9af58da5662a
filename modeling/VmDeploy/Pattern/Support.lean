import VmDeploy.Pattern.Reader

/-!
# Patterns that can be matched

Not every pattern that can be read can be matched. The kinds of characters and
the ends of words are known for ASCII alone, and so are the cases of letters.
A pattern that has turned every script off is matched byte by byte, and there
nothing may match a part of a character.

A setting holds from where it is changed to the end of the group. It reaches
across the branches of the group.
-/

set_option autoImplicit false

namespace VmDeploy.Pattern

/-- The settings that decide what can be matched. -/
structure Settings where
  caseless : Bool := false
  everyScript : Bool := true
  deriving DecidableEq, Repr

/-- The settings behind a change. -/
def Settings.change (s : Settings) (c : Change) : Settings where
  caseless := c.apply .caseless s.caseless
  everyScript := c.apply .everyScript s.everyScript

/-- Whether a character can be matched. The digits of a byte do not spell a part of
one. -/
def Settings.allow (s : Settings) (l : Literal) : Bool :=
  if s.everyScript then !s.caseless else !l.isByte || l.char.toNat < 0x80

/-- Whether a character can be matched as a member of a set. -/
def Settings.allowMember (s : Settings) (l : Literal) : Bool :=
  if s.everyScript then !s.caseless else l.char.toNat < 0x80

mutual

/-- Whether a set can be matched. Byte by byte, all but some characters cannot. -/
def CharSet.isSupported (s : Settings) : CharSet → Bool
  | .empty => true
  | .literal l => s.allowMember l
  | .range first last => s.allowMember first && s.allowMember last
  | .named negated => if s.everyScript then !s.caseless else !negated
  | .kind negated => !s.everyScript && !negated
  | .bracketed negated set => (s.everyScript || !negated) && set.isSupported s
  | .union sets => CharSet.areSupported s sets
  | .combined left right => left.isSupported s && right.isSupported s

/-- Whether all of some sets can be matched. -/
def CharSet.areSupported (s : Settings) : List CharSet → Bool
  | [] => true
  | set :: sets => set.isSupported s && CharSet.areSupported s sets

end

/-- Whether an atom can be matched. -/
def Atom.isSupported (s : Settings) : Atom → Bool
  | .literal l => s.allow l
  | .anyCharacter => s.everyScript
  | .boundary => true
  | .wordBoundary => !s.everyScript
  | .kind negated => !s.everyScript && !negated

mutual

/-- The settings behind a pattern, if it can be matched. -/
def settingsBehind? (s : Settings) : Pattern → Option Settings
  | .empty => some s
  | .atom a => if a.isSupported s then some s else none
  | .oneOf set => if set.isSupported s then some s else none
  | .turn c => some (s.change c)
  | .repeated p => p.settingsBehind? s
  | .group c p => (p.settingsBehind? (s.change c)).map fun _ => s
  | .choice branches => settingsBehindAll? s branches
  | .sequence parts => settingsBehindAll? s parts

/-- The settings behind patterns in a row, if all can be matched. -/
def settingsBehindAll? (s : Settings) : List Pattern → Option Settings
  | [] => some s
  | p :: ps => do settingsBehindAll? (← p.settingsBehind? s) ps

end

/-- How deep a pattern can be nested. -/
def maxLevels : Nat := 250

/-- Whether a text is a pattern that can be matched. -/
def isValid (text : List Char) : Bool :=
  match read? text with
  | none => false
  | some p => p.levels ≤ maxLevels && (p.settingsBehind? {}).isSome

example : isValid "(?P<n>a**|[[:alpha:]]+?)".toList = true := by decide +kernel

example : isValid "[^a-z&&[x]]".toList = true := by decide +kernel

example : isValid "(?-u:\\w)".toList = true := by decide +kernel

example : isValid "\\w".toList = false := by decide +kernel

example : isValid "(?i)x".toList = false := by decide +kernel

example : isValid "[z-a]".toList = false := by decide +kernel

example : isValid "(?P<n>x)(?P<n>y)".toList = false := by decide +kernel

end VmDeploy.Pattern
