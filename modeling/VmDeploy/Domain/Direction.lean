import VmDeploy.Text.StepTable

/-!
# Directions of writing

Where a name has a label that is written from right to left, every label has
to keep one direction, so that the name looks the same wherever it stands:
a label begins with a letter and ends in a letter or digit of its direction,
marks behind it left aside, letters of the other direction have no place in it,
nor have European digits beside Arabic ones in one that runs to the left.
-/

set_option autoImplicit false

namespace VmDeploy.Domain

/-- How a character behaves in lines of both directions. -/
inductive Direction where
  | right
  | left
  | arabicDigit
  | europeanDigit
  | neutral
  /-- It goes with the character before. -/
  | attached
  deriving DecidableEq, Repr

/-- For each character from which on there is another direction, its distance from the one
before, and the direction by number. -/
def directionRows : List String := [
  "21 4 f 3 a 4 27 0 1a 4 64 0 18 4 1 0 1c1 4 2 0 7 4 e 0 2 4 1c 0 1 4 11 5 71 0 4 4 2 0 7f 4 2 0",
  "8b 5 8 0 ff 4 7 5 2d 1 1 5 1 1 1 5 2 1 1 5 2 1 1 5 9 1 36 4 2 1 1 4 2 1 1 4 1 1 1 4 2 5 b 1 30",
  "5 15 2 a 4 1 2 2 1 3 5 1 1 65 5 8 4 1 5 6 1 2 5 2 4 1 5 4 1 2 3 a 1 17 5 1 1 1e 5 1d 1 59 5 b",
  "1 3a 5 9 1 2 4 4 1 3 5 1 1 18 5 4 1 1 5 9 1 1 5 3 1 1 5 7 1 29 5 5 1 39 5 9 1 2a 5 39 0 37 5 1",
  "0 1 5 1 0 4 5 8 0 4 5 1 0 3 5 f 0 2 5 2 0 1d 5 1 0 3a 5 1 0 4 5 6 0 6 5 1 0 14 5 4 0 c 4 2 0 7",
  "4 1 0 2 5 5 0 39 5 2 0 3 5 1b 0 14 5 2 0 3 5 1 0 b 5 2 0 39 5 1 0 4 5 8 0 4 5 3 0 12 5 4 0 b 4",
  "8 0 1 5 8 0 3a 5 1 0 2 5 1 0 1 5 6 0 6 5 a 0 b 5 4 0 1c 5 1 0 3d 5 1 0 c 5 3 0 23 4 d 5 1 0 3",
  "5 1 0 37 5 1 0 1 5 3 0 5 5 12 0 a 5 4 0 12 4 7 0 2 5 1 0 3a 5 1 0 f 5 9 0 d 5 4 0 1a 5 2 0 39",
  "5 2 0 4 5 5 0 7 5 1 0 14 5 4 0 1b 5 1 0 48 5 5 0 3 5 6 0 59 5 1 0 2 5 b 4 1 0 7 5 8 0 62 5 1 0",
  "2 5 9 0 b 5 8 0 48 5 2 0 1b 5 1 0 1 5 1 0 1 5 1 4 4 0 33 5 e 0 1 5 5 0 1 5 2 0 5 5 31 0 8 5 1",
  "0 66 5 4 0 1 5 6 0 1 5 2 0 2 5 2 0 19 5 2 0 4 5 3 0 10 5 4 0 d 5 1 0 2 5 2 0 6 5 1 0 f 5 1 0",
  "2bf 5 3 0 30 4 10 0 60 4 1 0 29a 4 5 0 72 5 3 0 1d 5 2 0 1e 5 e 0 12 5 e 0 37 5 7 0 8 5 1 0 2",
  "5 b 0 7 4 1 0 1 5 3 0 10 4 20 0 75 5 2 0 22 5 1 0 76 5 3 0 4 5 2 0 9 5 1 0 6 5 7 4 6 0 98 4 22",
  "0 17 5 2 0 2 5 3 0 38 5 1 0 1 5 9 0 1 5 1 0 2 5 8 0 6 5 d 0 30 5 54 0 30 5 1 0 1 5 5 0 1 5 1 0",
  "5 5 1 0 28 5 9 0 c 5 2 0 20 5 4 0 2 5 2 0 1 5 3 0 38 5 1 0 1 5 2 0 3 5 1 0 1 5 3 0 3a 5 8 0 2",
  "5 5 0 95 5 3 0 1 5 d 0 1 5 7 0 4 5 1 0 6 5 1 0 3 5 2 0 c6 5 41 0 20b 4 c4 5 34 4 4a 0 3c 4 1ac",
  "0 45 4 1a 0 1 4 316 0 1 4 153 0 100 4 330 0 b5 4 7 0 3 5 4 0 6 4 7 0 7f 5 1 0 60 5 20 4 205 0",
  "3 4 19 0 9 5 4 0 2 4 1 0 6 4 4 0 2 4 4 0 58 5 4 0 3 4 1 0 5a 4 1 0 c4 4 30 0 1bd0 4 40 0 5690",
  "4 40 0 13d 4 3 0 5f 5 4 4 1 5 a 4 3 0 1d 5 2 0 50 5 2 0 e 4 23 0 65 4 1 0 79 5 1 0 3 5 1 0 4 5",
  "1 0 19 5 2 0 1 4 4 5 4 0 8 4 8 0 34 4 c 0 44 5 a 0 12 5 12 0 d 5 1 0 26 5 8 0 19 5 b 0 2e 5 3",
  "0 30 5 1 0 2 5 4 0 2 5 2 0 27 5 1 0 43 5 6 0 2 5 2 0 2 5 b 0 3 5 1 0 8 5 1 0 2f 5 1 0 33 5 1 0",
  "1 5 3 0 2 5 2 0 5 5 2 0 1 5 1 0 2a 5 2 0 8 5 b 0 69 4 56 0 25 5 1 0 2 5 1 0 4 5 3 0 4f2e 5 94",
  "1 11 4 25d 5 25 4 2e 1 18d 0 101 4 1 0 3e 4 4d 0 3 4 40 0 2d 5 83 0 60 5 1 3 1f 0 76 5 a 0 480",
  "1 11f 4 1 1 e1 5 f 1 28 5 8 1 a5 5 6 1 4e 4 7 1 1e4 5 c 2 10 1 29 5 5 4 1 1 f1 2 20 1 2b 5 2 1",
  "23 4 2a 5 6 1 46 5 b 1 31 5 4 1 7a 0 1 5 1 0 36 5 f 0 b 4 14 0 a 5 1 0 2 5 2 0 a 5 3 0 31 5 4",
  "0 2 5 2 0 7 5 e 0 30 5 3 0 24 5 5 0 1 5 9 0 3d 5 1 0 c 5 2 0 34 5 9 0 a 5 4 0 2 5 1 0 5f 5 3 0",
  "2 5 1 0 1 5 2 0 6 5 1 0 2 5 3f 0 5f 5 1 0 3 5 d 0 10 5 2 0 39 5 2 0 3 5 1 0 25 5 1a 0 3b 5 7 0",
  "c 5 1 0 1 5 1 0 1 5 1 0 e 5 1f 0 38 5 8 0 2 5 3 0 1 5 1 0 17 5 1 0 54 5 6 0 1 5 1 0 4 5 2 0 1",
  "5 2 0 ee 5 6 0 4 5 2 0 1 5 2 0 1b 5 24 0 33 5 8 0 2 5 1 0 1 5 2 0 1f 4 20 0 2b 5 1 0 1 5 1 0 2",
  "5 6 0 1 5 1 0 65 5 3 0 2 5 4 0 1 5 9 0 ff 5 9 0 1 5 2 0 100 5 2 0 1 5 1 0 4 5 1 0 90 5 8 0 4 5",
  "1 0 20 5 6 0 2 5 2 0 28 5 6 0 2 5 4 0 8 5 9 0 1 5 6 0 2 5 3 0 2e 5 d 0 1 5 2 0 c6 5 1 0 1 5 3",
  "0 1 5 1 0 c9 5 e 0 54 5 17 0 1 5 7 0 1 5 2 0 1 5 4b 0 31 5 15 0 1 5 9 0 40 5 3 0 2 5 1 0 1 5 1",
  "0 15b 5 2 0 b 5 2 0 34 5 8 0 2 5 1 0 1 5 1 0 17 5 56 0 25 4 2a 0 1441 5 1 0 6 5 19 0 2cbe 5 c",
  "0 3 5 3 0 9c0 5 5 0 3b 5 7 0 418 5 1 0 3f 5 4 0 4f 4 1 0 1 5 c 0 4cad 5 2 0 f61 4 300 5 50 0",
  "217 5 3 0 11 5 8 0 2 5 7 0 1e 5 4 0 3b 4 59 5 3 4 7b 0 40 4 60 0 6a0 5 37 0 4 5 32 0 8 5 1 0 e",
  "5 1 0 16 5 465 0 100 5 100 0 30 5 7 0 177 5 12 0 2c 5 4 0 f 4 1d1 0 1c 5 4 0 fe 5 2 0 f3 5 1 0",
  "2 5 1 0 7 5 2 0 5 5 9 0 102 1 d0 5 52 1 22 5 7 1 5a5 4 260 0 1d 4 3 0 3d 4 39 0 7a 4 da0 0"]

/-- The directions by number as a table. -/
def directionTable : StepTable Nat := .ofClassRows directionRows

namespace Direction

/-- The direction of a number. -/
def ofClass : Nat → Direction
  | 0 => .right
  | 1 => .left
  | 2 => .arabicDigit
  | 3 => .europeanDigit
  | 4 => .neutral
  | _ => .attached

/-- The direction of a character that names may have. -/
def of (c : Char) : Direction := ofClass (directionTable.classOf c)

/-- Whether a direction makes a label one that runs to the left. -/
def runsLeft (d : Direction) : Bool := d = .left || d = .arabicDigit

/-- What may stand inside a label that runs to the right. -/
def fitsRight (d : Direction) : Bool :=
  d = .right || d = .europeanDigit || d = .neutral || d = .attached

/-- What may stand inside a label that runs to the left. -/
def fitsLeft (d : Direction) : Bool := d ≠ .right

/-- Whether a label of these directions keeps one direction. -/
def consistent (label : List Direction) : Bool :=
  match label with
  | [] => true
  | first :: _ =>
    let last := (label.reverse.dropWhile (· = .attached)).head?.getD first
    match first with
    | .right => label.all fitsRight && (last = .right || last = .europeanDigit)
    | .left =>
      label.all fitsLeft
        && (last = .left || last = .europeanDigit || last = .arabicDigit)
        && !(label.contains .europeanDigit && label.contains .arabicDigit)
    | .arabicDigit | .europeanDigit | .neutral | .attached => false

/-- A digit cannot begin a label. -/
example : consistent [.europeanDigit, .left] = false := by decide

example : consistent [.left, .neutral, .europeanDigit, .attached] = true := by decide

end Direction

end VmDeploy.Domain
