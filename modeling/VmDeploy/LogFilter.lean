import VmDeploy.Pattern.Support
import VmDeploy.Text.Blank
import VmDeploy.Text.Decimal
import VmDeploy.Text.Letter

/-!
# Log filters

A filter is a list of directives between commas. A directive names a level, or
a target with a level behind an equals sign, or a span in square brackets, in
which braces hold a condition on a field: its name, and behind an equals sign
what it is compared with, which is a number or a pattern. What is neither a
level nor split by a sign is the name of a target.

`isValid` follows a directive character by character, without the blanks around
it. A level and a condition are cut out of the whole directive by the bytes in
front of them, so blanks at its front move the cut. `setUp` tells which of two
errors counts when a log cannot be set up.
-/

set_option autoImplicit false

namespace VmDeploy.LogFilter

/-- The levels by name. -/
def levelNames : List String := ["error", "warn", "info", "debug", "trace", "off"]

/-- Whether a text names a level: by its name in any case, by a number up to five, or
by nothing at all. -/
def isLevel (s : List Char) : Bool :=
  s.isEmpty || levelNames.contains (String.ofList (s.map Char.toLower))
    || match Text.Decimal.readUnsigned UInt64.size s with
      | .ok n => n ≤ 5
      | .error _ => false

/-- A text behind so many bytes, if they are whole characters. -/
def behindBytes? : (bytes : Nat) → List Char → Option (List Char)
  | 0, s => some s
  | _ + 1, [] => none
  | n + 1, c :: rest =>
    if c.utf8Size ≤ n + 1 then behindBytes? (n + 1 - c.utf8Size) rest else none

/-- The characters that so many bytes spell at the front of a text. -/
def firstBytes? : (bytes : Nat) → List Char → Option (List Char)
  | 0, _ => some []
  | _ + 1, [] => none
  | n + 1, c :: rest =>
    if c.utf8Size ≤ n + 1 then (firstBytes? (n + 1 - c.utf8Size) rest).map (c :: ·) else none

/-- Whether a text is nothing or an exponent. -/
def isExponent : List Char → Bool
  | [] => true
  | c :: rest =>
    let digits := if rest.head? = some '+' ∨ rest.head? = some '-' then rest.tail else rest
    (c = 'e' || c = 'E') && !digits.isEmpty && digits.all Char.isDigit

/-- Whether a text is a number without a sign: digits that may hold a point, with an
exponent or without, or one of the words for what is no number or beyond all. -/
def isNumber (s : List Char) : Bool :=
  ["inf", "infinity", "nan"].contains (String.ofList (s.map Char.toLower)) ||
    let (whole, rest) := s.span Char.isDigit
    let (fraction, rest) :=
      match rest with
      | '.' :: rest => rest.span Char.isDigit
      | _ => ([], rest)
    (!whole.isEmpty || !fraction.isEmpty) && isExponent rest

/-- Whether a field can be compared with a text. A number is a pattern too, unless it has
a plus sign in front. -/
def isComparand (s : List Char) : Bool :=
  Pattern.isValid s || (s.head? = some '+' && isNumber s.tail)

/-- Whether a text is a condition on a field. A second equals sign ends what the field is
compared with. -/
def isCondition (s : List Char) : Bool :=
  !s.isEmpty &&
    match s.dropWhile (· != '=') with
    | [] => true
    | _ :: comparand => isComparand (comparand.takeWhile (· != '='))

/-- Where in a directive a character stands. A level and a condition begin behind so many
bytes. -/
inductive Place where
  | start
  | levelOrTarget
  | span
  | condition (origin : Nat)
  | behindCondition
  | behindSpan
  | level (origin : Nat)
  | invalid
  deriving DecidableEq, Repr

/-- Whether a directive may begin with a character: a letter, a digit or one of three
signs. -/
def begins (c : Char) : Bool := Text.isLetter c || c = '-' || c = ':' || c = '_'

/-- Where the character behind `index` bytes stands. -/
def Place.next (directive : List Char) (index : Nat) (c : Char) : Place → Place
  | .start => if c = '[' then .span else if begins c then .levelOrTarget else .invalid
  | .levelOrTarget => if c = '=' then .level (index + 1) else if c = '[' then .span else .levelOrTarget
  | .span =>
    if c = ']' then .behindSpan else if c = '\x7b' then .condition (index + 1) else .span
  | .condition origin =>
    if c = '\x7d' then
      if ((behindBytes? origin directive).bind (firstBytes? (index - origin))).any isCondition then
        .behindCondition
      else .invalid
    else .condition origin
  | .behindCondition => if c = ']' then .behindSpan else .invalid
  | .behindSpan => if c = '=' then .level (index + 1) else .invalid
  | .level origin => .level origin
  | .invalid => .invalid

/-- Whether a directive may end at a place. -/
def Place.mayEnd (directive : List Char) : Place → Bool
  | .levelOrTarget | .behindSpan => true
  | .level origin => (behindBytes? origin directive).any isLevel
  | .start | .span | .condition _ | .behindCondition | .invalid => false

/-- The parts of a text between commas. -/
def parts : List Char → List (List Char)
  | [] => [[]]
  | c :: rest =>
    if c = ',' then [] :: parts rest
    else
      match parts rest with
      | [] => [[c]]
      | part :: others => (c :: part) :: others

/-- Where a directive ends that goes on behind `index` bytes. -/
def Place.walk (directive : List Char) (place : Place) (index : Nat) : List Char → Place
  | [] => place
  | c :: rest => (place.next directive index c).walk directive (index + c.utf8Size) rest

/-- Whether a text between commas is a directive. -/
def isDirective (s : List Char) : Bool := (Place.start.walk s 0 (Text.trim s)).mayEnd s

/-- Whether a text is a filter. Empty parts do not count. -/
def isValid (text : String) : Bool :=
  ((parts text.toList).filter (!·.isEmpty)).all isDirective

/-- Why a log cannot be set up. -/
inductive SetupError where
  | invalid (filter : String)
  /-- There is a log already. -/
  | occupied
  deriving DecidableEq, Repr

/-- The wording of an error. -/
def SetupError.message : SetupError → String
  | .invalid filter => s!"Invalid log level '{filter}'"
  | .occupied => "Installing tracing subscriber"

/-- Sets up a log with a filter. There can be one log only; the filter is looked at first. -/
def setUp (occupied : Bool) (filter : String) : Except SetupError Unit :=
  if !isValid filter then .error (.invalid filter)
  else if occupied then .error .occupied
  else .ok ()

example : isValid "vm_deploy=trace,warn" = true := by decide +kernel

example : isValid "warn,a=loud" = false := by decide +kernel

example : isValid "[span\x7bfield=a|b\x7d]=info" = true := by decide +kernel

example : isValid "[span\x7bfield=(\x7d]=info" = false := by decide +kernel

end VmDeploy.LogFilter
