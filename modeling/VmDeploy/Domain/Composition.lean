import VmDeploy.Domain.Composition.Table

/-!
# Composition

A letter with marks can be written as one character or as several, and marks
of different classes in any order. A text is composed when it has the fewest
characters, and marks that no letter takes up stand in the order of their
classes. `compose` takes all composites apart, orders the marks and puts
letters and marks together again.

Korean syllables are composites by a rule: a leading consonant, a vowel and
perhaps a trailing consonant are counted off in their blocks.
-/

set_option autoImplicit false

namespace VmDeploy.Domain

namespace Syllable

/-- The first leading consonant. -/
def leading : Nat := 0x1100

/-- How many leading consonants there are. -/
def leadingCount : Nat := 19

/-- The first vowel. -/
def vowel : Nat := 0x1161

/-- How many vowels there are. -/
def vowelCount : Nat := 21

/-- The place in front of the first trailing consonant, which stands for having none. -/
def trailing : Nat := 0x11A7

/-- How many trailing consonants there are, and none. -/
def trailingCount : Nat := 28

/-- The first syllable. -/
def first : Nat := 0xAC00

/-- How many syllables there are. -/
def count : Nat := leadingCount * vowelCount * trailingCount

/-- The two parts of a syllable: a syllable and a trailing consonant, or a leading consonant
and a vowel. -/
def parts? (c : Char) : Option (Char × Char) :=
  let n := c.toNat - first
  if c.toNat < first ∨ count ≤ n then none
  else if n % trailingCount ≠ 0 then
    some (Char.ofNat (first + n / trailingCount * trailingCount),
      Char.ofNat (trailing + n % trailingCount))
  else
    some (Char.ofNat (leading + n / trailingCount / vowelCount),
      Char.ofNat (vowel + n / trailingCount % vowelCount))

/-- The syllable of two parts. -/
def join? (a b : Char) : Option Char :=
  let l := a.toNat - leading
  let v := b.toNat - vowel
  let s := a.toNat - first
  let t := b.toNat - trailing
  if leading ≤ a.toNat ∧ l < leadingCount ∧ vowel ≤ b.toNat ∧ v < vowelCount then
    some (Char.ofNat (first + (l * vowelCount + v) * trailingCount))
  else if first ≤ a.toNat ∧ s < count ∧ s % trailingCount = 0 ∧ trailing < b.toNat
      ∧ t < trailingCount then
    some (Char.ofNat (a.toNat + t))
  else none

end Syllable

/-- The two parts of a composite. -/
def parts? (c : Char) : Option (Char × Char) :=
  Syllable.parts? c <|> do
    let (start, parts) ← compositeTable.at? c.toNat
    if start = c.toNat then return parts else none

/-- The composite of two parts. -/
def join? (a b : Char) : Option Char :=
  Syllable.join? a b <|>
    (composites.find? fun (_, parts) => parts = (a, b)).map fun (c, _) => Char.ofNat c

/-- Takes a character apart, in so many rounds at most; the second part of a composite is none
itself. -/
def takeApart (c : Char) : (rounds : Nat) → List Char
  | 0 => [c]
  | rounds + 1 =>
    match parts? c with
    | some (a, b) => takeApart a rounds ++ [b]
    | none => [c]

/-- No composite takes more rounds. -/
def roundsNeeded : Nat := 4

/-- Puts a mark into a text that stands in reverse, in front of the marks of higher classes
at its end. -/
def insertMark (c : Char) : List Char → List Char
  | [] => [c]
  | d :: rest =>
    if markClass c ≠ 0 ∧ markClass c < markClass d then d :: insertMark c rest else c :: d :: rest

/-- Brings marks that follow each other into the order of their classes; equal classes keep
their order. -/
def orderMarks (s : List Char) : List Char :=
  (s.foldl (fun reversed c => insertMark c reversed) []).reverse

/-- Puts together what follows a character; the marks that it did not take up stand in
reverse. -/
def joinFrom (start : Char) (left : List Char) : List Char → List Char
  | [] => start :: left.reverse
  | c :: rest =>
    let free := match left with
      | [] => true
      | last :: _ => markClass last < markClass c
    match if free then join? start c else none with
    | some composite => joinFrom composite left rest
    | none =>
      if markClass c = 0 then start :: left.reverse ++ joinFrom c [] rest
      else joinFrom start (c :: left) rest

/-- The composed form of a text. -/
def compose (s : List Char) : List Char :=
  let ordered := orderMarks (s.flatMap fun c => takeApart c roundsNeeded)
  let marks := ordered.takeWhile fun c => markClass c ≠ 0
  match ordered.drop marks.length with
  | [] => marks
  | c :: rest => marks ++ joinFrom c [] rest

/-- A leading consonant, a vowel and a trailing consonant are one syllable. -/
example : (Syllable.join? '\u1112' '\u1161').bind (Syllable.join? · '\u11ab') = some '\ud55c' := by
  decide

end VmDeploy.Domain
