import VmDeploy.Pattern.Basic
import VmDeploy.Text.Blank
import VmDeploy.Text.Hex
import VmDeploy.Text.Letter

/-!
# Reading patterns

A pattern is read from its front. Of the groups and the sets that are not
closed yet the innermost is at hand and those around it wait, so that a turn
takes one part of a pattern and at least one character; the length of the text
bounds the turns.

Numbers in braces do not occur: in a condition a closing brace ends the
pattern, so an opening one is always left open.
-/

set_option autoImplicit false

namespace VmDeploy.Pattern

/-- Reads from the front of a text. -/
abbrev Reader := StateT (List Char) Option

namespace Reader

/-- Reads a character. -/
def next : Reader Char := do
  match ← get with
  | [] => failure
  | c :: rest =>
    set rest
    return c

/-- A text from its first character on that is neither blank nor in a comment. -/
def behindBlanks (inComment : Bool) : List Char → List Char
  | [] => []
  | c :: rest =>
    if inComment then behindBlanks (c != '\n') rest
    else if c = '#' then behindBlanks true rest
    else if Text.isBlank c then behindBlanks false rest
    else c :: rest

/-- Passes over blanks and comments, where they do not count. -/
def blanks (spaced : Bool) : Reader Unit :=
  if spaced then modify (behindBlanks false) else pure ()

/-- Reads hexadecimal digits, blanks before each of them included. `value` are those
before. -/
def hexDigits (spaced : Bool) : (count value : Nat) → Reader Nat
  | 0, value => return value
  | count + 1, value => do
    blanks spaced
    match Text.Hex.value? (← next) with
    | none => failure
    | some digit => hexDigits spaced count (16 * value + digit)

/-- Reads a character that is written as its number. -/
def numbered (spaced : Bool) (digits : Nat) : Reader Atom := do
  let n ← hexDigits spaced digits 0
  if n.isValidChar then return .literal ⟨Char.ofNat n, digits = 2⟩ else failure

/-- Reads what stands behind a backslash. -/
def escaped (spaced : Bool) : Reader Atom := do
  match ← next with
  | 'x' => numbered spaced 2
  | 'u' => numbered spaced 4
  | 'U' => numbered spaced 8
  | 'd' | 's' | 'w' => return .kind false
  | 'D' | 'S' | 'W' => return .kind true
  | 'a' => return .literal ⟨'\x07', false⟩
  | 't' => return .literal ⟨'\t', false⟩
  | 'n' => return .literal ⟨'\n', false⟩
  | 'v' => return .literal ⟨'\x0b', false⟩
  | 'f' => return .literal ⟨'\x0c', false⟩
  | 'r' => return .literal ⟨'\r', false⟩
  | 'A' | 'z' => return .boundary
  | 'b' | 'B' | '<' | '>' => return .wordBoundary
  | c => if c.toNat < 0x80 && !c.isAlphanum then return .literal ⟨c, false⟩ else failure

/-! ## Sets -/

/-- The sets that have names. -/
def setNames : List String :=
  ["alnum", "alpha", "ascii", "blank", "cntrl", "digit", "graph", "lower", "print", "punct", "space",
    "upper", "word", "xdigit"]

/-- Whether a set with a name follows behind a bracket, and what is behind it. -/
def named? : List Char → Option (CharSet × List Char)
  | ':' :: rest =>
    let negated := rest.head? = some '^'
    let rest := if negated then rest.tail else rest
    match rest.dropWhile (· != ':') with
    | ':' :: ']' :: behind =>
      if setNames.contains (String.ofList (rest.takeWhile (· != ':'))) then
        some (.named negated, behind)
      else none
    | _ => none
  | _ => none

/-- Reads a character of a set, or one of the kinds. -/
def setAtom (spaced : Bool) : Reader Atom := do
  match ← next with
  | '\\' => escaped spaced
  | c => return .literal ⟨c, false⟩

/-- Whether a dash spans a range with what is behind it: it does unless the set ends
there or another dash follows, be it behind blanks or the sign of a comment. -/
def spansRange (spaced : Bool) (behind : List Char) : Bool :=
  let found :=
    if spaced then
      match behind.dropWhile Text.isBlank with
      | '#' :: rest => rest.dropWhile Text.isBlank
      | rest => rest
    else behind
  found.head? != some ']' && found.head? != some '-'

/-- Reads a member of a set. -/
def member (spaced : Bool) : Reader CharSet := do
  let first ← setAtom spaced
  blanks spaced
  match ← get with
  | '-' :: behind =>
    if spansRange spaced behind then do
      set behind
      blanks spaced
      match first, ← setAtom spaced with
      | .literal a, .literal b => if a.char ≤ b.char then return .range a b else failure
      | _, _ => failure
    else single first
  | _ => single first
where
  /-- An atom as a set. -/
  single : Atom → Reader CharSet
    | .literal l => return .literal l
    | .kind negated => return .kind negated
    | .anyCharacter | .boundary | .wordBoundary => failure

/-- A set that is being read. -/
structure OpenSet where
  negated : Bool
  /-- What stands before the last operator. -/
  left : Option CharSet := none
  /-- What stands behind it, last first. -/
  members : List CharSet

/-- A set with one more member. -/
def OpenSet.add (s : OpenSet) (member : CharSet) : OpenSet :=
  { s with members := member :: s.members }

/-- What has been read of a set. -/
def OpenSet.contents (s : OpenSet) : CharSet :=
  let last := CharSet.ofMembers s.members.reverse
  match s.left with
  | none => last
  | some left => .combined left last

/-- A set behind an operator. -/
def OpenSet.operator (s : OpenSet) : OpenSet := { s with left := some s.contents, members := [] }

/-- Reads dashes at the front of a set. -/
def dashes (spaced : Bool) : (fuel : Nat) → Reader (List CharSet)
  | 0 => failure
  | fuel + 1 => do
    match ← get with
    | '-' :: rest =>
      set rest
      blanks spaced
      return .literal ⟨'-', false⟩ :: (← dashes spaced fuel)
    | _ => return []

/-- Reads the beginning of a set behind its bracket. Dashes stand for themselves there,
and so does a closing bracket. -/
def openSet (spaced : Bool) : Reader OpenSet := do
  blanks spaced
  let negated := (← get).head? = some '^'
  if negated then do
    modify List.tail
    blanks spaced
  match ← dashes spaced ((← get).length + 1) with
  | [] =>
    match ← get with
    | ']' :: rest =>
      set rest
      return { negated, members := [.literal ⟨']', false⟩] }
    | _ => return { negated, members := [] }
  | members => return { negated, members }

/-- Reads a set up to the bracket that closes it. Sets in `around` wait for it. -/
def setBehind (spaced : Bool) :
    (fuel : Nat) → (around : List OpenSet) → (s : OpenSet) → Reader CharSet
  | 0, _, _ => failure
  | fuel + 1, around, s => do
    blanks spaced
    match ← get with
    | '[' :: rest =>
      match named? rest with
      | some (found, rest) =>
        set rest
        setBehind spaced fuel around (s.add found)
      | none =>
        set rest
        setBehind spaced fuel (s :: around) (← openSet spaced)
    | ']' :: rest =>
      set rest
      let closed := CharSet.bracketed s.negated s.contents
      match around with
      | [] => return closed
      | outer :: around => setBehind spaced fuel around (outer.add closed)
    | '&' :: '&' :: rest | '-' :: '-' :: rest | '~' :: '~' :: rest =>
      set rest
      setBehind spaced fuel around s.operator
    | _ => setBehind spaced fuel around (s.add (← member spaced))

/-- Reads a set behind its bracket. -/
def bracketed (spaced : Bool) : Reader CharSet := do
  let fuel := (← get).length + 1
  setBehind spaced fuel [] (← openSet spaced)

/-! ## Groups -/

/-- Reads a change of settings up to the sign that ends it. A dash, of which there can
be one, turns off what follows it, and something has to. `seen` are the settings before. -/
def change (seen : List Setting) (turnOn dangling : Bool) :
    List Char → Option (Change × List Char)
  | [] => none
  | c :: rest =>
    if c = ':' ∨ c = ')' then if dangling then none else some ([], c :: rest)
    else if c = '-' then if turnOn then change seen false true rest else none
    else do
      let setting ← Setting.ofLetter? c
      if seen.contains setting then none
      else
        let (others, rest) ← change (setting :: seen) turnOn false rest
        return ((setting, turnOn) :: others, rest)

/-- Whether a text can be the name of a group. -/
def isName : List Char → Bool
  | [] => false
  | c :: rest =>
    (c = '_' || Text.isAlphabetic c)
      && rest.all fun c => ['_', '.', '[', ']'].contains c || Text.isLetter c

/-- What an opening parenthesis begins. -/
inductive Opening where
  | change (c : Change)
  | group (name : Option (List Char)) (c : Change)

/-- Reads the name of a group. -/
def groupName : Reader Opening := do
  let text ← get
  let name := text.takeWhile (· != '>')
  match text.dropWhile (· != '>') with
  | '>' :: rest =>
    set rest
    if isName name then return .group (some name) [] else failure
  | _ => failure

/-- Reads what stands at the front of a group. -/
def opening (spaced : Bool) : Reader Opening := do
  blanks spaced
  match ← get with
  | '?' :: 'P' :: '<' :: rest | '?' :: '<' :: rest =>
    set rest
    groupName
  | '?' :: rest =>
    match change [] true false rest with
    | some (c, ':' :: rest) =>
      set rest
      return .group none c
    | some (c@(_ :: _), ')' :: rest) =>
      set rest
      return .change c
    | _ => failure
  | _ => return .group none []

/-- A group that is being read, or the pattern itself. -/
structure OpenGroup where
  change : Change
  /-- Whether blanks do not count where the reading is. -/
  spaced : Bool
  /-- The branches that are read, last first. -/
  branches : List Pattern
  /-- The parts of the branch that is being read, last first. -/
  parts : List Pattern

/-- A group of which nothing is read. -/
def OpenGroup.start (change : Change) (spaced : Bool) : OpenGroup where
  change := change
  spaced := spaced
  branches := []
  parts := []

/-- A group with one more part. -/
def OpenGroup.add (g : OpenGroup) (part : Pattern) : OpenGroup :=
  { g with parts := part :: g.parts }

/-- A group behind the sign between branches. -/
def OpenGroup.branch (g : OpenGroup) : OpenGroup :=
  { g with branches := ofParts g.parts.reverse :: g.branches, parts := [] }

/-- What has been read of a group. -/
def OpenGroup.contents (g : OpenGroup) : Pattern :=
  let last := ofParts g.parts.reverse
  match g.branches with
  | [] => last
  | branches => .choice (last :: branches).reverse

/-- A group in which the last part is repeated. There has to be one, and no change of
settings. -/
def OpenGroup.repeat? (g : OpenGroup) : Option OpenGroup :=
  match g.parts with
  | [] | .turn _ :: _ => none
  | part :: parts => some { g with parts := .repeated part :: parts }

/-- Reads a pattern to its end. Groups in `around` wait for the one at hand, and `names`
are taken. -/
def patternBehind :
    (fuel : Nat) → (names : List (List Char)) → (around : List OpenGroup) → OpenGroup →
      Reader Pattern
  | 0, _, _, _ => failure
  | fuel + 1, names, around, g => do
    blanks g.spaced
    match ← get with
    | [] => if around.isEmpty then return g.contents else failure
    | c :: rest =>
      set rest
      match c with
      | '(' =>
        match ← opening g.spaced with
        | .change c =>
          let g := { g with spaced := c.apply .spaced g.spaced }
          patternBehind fuel names around (g.add (.turn c))
        | .group name c =>
          if name.any names.contains then failure
          else
            patternBehind fuel (name.toList ++ names) (g :: around)
              (.start c (c.apply .spaced g.spaced))
      | ')' =>
        match around with
        | [] => failure
        | outer :: around =>
          patternBehind fuel names around (outer.add (.group g.change g.contents))
      | '|' => patternBehind fuel names around g.branch
      | '[' => patternBehind fuel names around (g.add (.oneOf (← bracketed g.spaced)))
      | '?' | '*' | '+' =>
        match g.repeat? with
        | none => failure
        | some g =>
          if rest.head? = some '?' then modify List.tail
          patternBehind fuel names around g
      | '\x7b' => failure
      | '\\' => patternBehind fuel names around (g.add (.atom (← escaped g.spaced)))
      | '.' => patternBehind fuel names around (g.add (.atom .anyCharacter))
      | '^' | '$' => patternBehind fuel names around (g.add (.atom .boundary))
      | c => patternBehind fuel names around (g.add (.atom (.literal ⟨c, false⟩)))

end Reader

/-- Reads a pattern. -/
def read? (text : List Char) : Option Pattern :=
  (Reader.patternBehind (text.length + 1) [] [] (.start [] false)).run' text

end VmDeploy.Pattern
