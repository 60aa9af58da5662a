/-!
# Patterns

A pattern describes texts: characters, sets of characters in brackets,
repetition, choice and groups. Here it is kept as far as it decides whether a
pattern is one: which bounds a repetition has, and which of the operators joins
two sets, does not matter.

`levels` counts how deep a pattern is nested. `Settings` are what a pattern can
turn on and off while it is read, by `Settings.change`.
-/

set_option autoImplicit false

namespace VmDeploy

namespace Pattern

/-- What a pattern can turn on and off. -/
inductive Setting where
  | caseless
  | lineWise
  | dotAnything
  | lazy
  /-- Characters of every script count, not those of ASCII alone. -/
  | everyScript
  | carriageReturn
  /-- Blanks and comments do not count. -/
  | spaced
  deriving DecidableEq, Repr

/-- The setting of a letter. -/
def Setting.ofLetter? : Char → Option Setting
  | 'i' => some .caseless
  | 'm' => some .lineWise
  | 's' => some .dotAnything
  | 'U' => some .lazy
  | 'u' => some .everyScript
  | 'R' => some .carriageReturn
  | 'x' => some .spaced
  | _ => none

/-- Settings that are turned on or off together. -/
abbrev Change := List (Setting × Bool)

/-- What a change says of a setting, which stays as it was if nothing is said. -/
def Change.apply (change : Change) (setting : Setting) (before : Bool) : Bool :=
  (change.lookup setting).getD before

/-- A character that stands for itself. -/
structure Literal where
  char : Char
  /-- Whether it is written as the two digits of a byte. -/
  isByte : Bool := false
  deriving DecidableEq, Repr

/-- What is not put together of anything else. -/
inductive Atom where
  | literal (l : Literal)
  | anyCharacter
  /-- An end of the text or of a line. -/
  | boundary
  /-- An end of a word, or a place that is none. -/
  | wordBoundary
  /-- The digits, the blanks or the characters of words, or all but them. -/
  | kind (negated : Bool)
  deriving DecidableEq, Repr

/-- A set of characters. -/
inductive CharSet where
  | empty
  | literal (l : Literal)
  | range (first last : Literal)
  /-- A set with a name between colons, or all that is not in it. -/
  | named (negated : Bool)
  /-- The digits, the blanks or the characters of words, or all but them. -/
  | kind (negated : Bool)
  | bracketed (negated : Bool) (set : CharSet)
  | union (sets : List CharSet)
  /-- Two sets with an operator between them. -/
  | combined (left right : CharSet)

end Pattern

/-- A pattern. -/
inductive Pattern where
  | empty
  | atom (a : Pattern.Atom)
  | oneOf (s : Pattern.CharSet)
  /-- A change of settings for what follows in the group. -/
  | turn (c : Pattern.Change)
  | repeated (p : Pattern)
  | group (c : Pattern.Change) (p : Pattern)
  | choice (branches : List Pattern)
  | sequence (parts : List Pattern)

namespace Pattern

/-- All members of a set together. -/
def CharSet.ofMembers : List CharSet → CharSet
  | [] => .empty
  | [s] => s
  | sets => .union sets

/-- Patterns one behind the other. -/
def ofParts : List Pattern → Pattern
  | [] => .empty
  | [p] => p
  | parts => .sequence parts

mutual

/-- How deep a set is nested. -/
def CharSet.levels : CharSet → Nat
  | .empty | .literal _ | .range _ _ | .named _ | .kind _ => 0
  | .bracketed _ set => set.levels + 1
  | .union sets => CharSet.mostLevels sets + 1
  | .combined left right => max left.levels right.levels + 1

/-- How deep the deepest of some sets is nested. -/
def CharSet.mostLevels : List CharSet → Nat
  | [] => 0
  | s :: sets => max s.levels (CharSet.mostLevels sets)

end

mutual

/-- How deep a pattern is nested. -/
def levels : Pattern → Nat
  | .empty | .atom _ | .turn _ => 0
  | .oneOf s => s.levels
  | .repeated p => p.levels + 1
  | .group _ p => p.levels + 1
  | .choice branches => mostLevels branches + 1
  | .sequence parts => mostLevels parts + 1

/-- How deep the deepest of some patterns is nested. -/
def mostLevels : List Pattern → Nat
  | [] => 0
  | p :: ps => max p.levels (mostLevels ps)

end

end Pattern

end VmDeploy
