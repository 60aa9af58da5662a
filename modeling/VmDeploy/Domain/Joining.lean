import VmDeploy.Domain.Composition.Table

/-!
# Joiners

Two characters that show nothing tell whether their neighbours are joined. They
may stand behind a character that suppresses a vowel. The one that keeps
neighbours apart may also stand where a letter that joins to its left and one
that joins to its right would meet, marks between them left aside.
-/

set_option autoImplicit false

namespace VmDeploy.Domain

/-- How a character joins its neighbours. -/
inductive Joining where
  | none
  | both
  | left
  | right
  /-- It is passed over. -/
  | transparent
  deriving DecidableEq, Repr

/-- For each character from which on there is another way of joining, its distance from the
one before, and the way by number. -/
def joiningRows : List String := [
  "300 4 71 0 112 4 8 0 106 4 2d 0 1 4 1 0 1 4 2 0 1 4 2 0 1 4 9 0 40 4 b 0 5 1 1 0 1 3 4 1 1 3 1",
  "1 1 3 1 1 5 3 4 1 d 0 1 1 7 3 1 1 2 4 15 0 e 1 2 4 1 3 3 0 5 1 f 3 12 1 26 3 1 1 2 3 9 1 1 3 1",
  "1 1 3 1 1 2 3 2 0 1 3 1 4 8 0 1 4 6 0 2 4 2 0 1 4 4 3 2 0 a 1 3 0 2 1 1 0 10 3 1 4 1 1 3 3 5 1",
  "4 3 1 1 9 3 1 1 1 3 1 1 1 3 1 1 2 3 1 4 1d 3 1 1 b 3 3 1 f 3 2 1 4 3 1 1 1 3 2 1 3 3 2 1 6 0",
  "26 4 b 0 19 1 21 4 9 0 9 4 1 0 18 4 4 0 1 4 9 0 1 4 3 0 1 4 7 0 10 3 1 1 5 3 2 1 1 3 1 1 a 3 1",
  "1 1 3 3 4 5 0 2 1 1 0 1 1 4 0 1 3 1 1 1 3 1a 0 3 1 1 0 2 1 5 3 1 1 8 4 9 1 a 3 3 0 1 3 1 1 2 3",
  "2 1 6 3 1 1 f 0 1 4 39 0 37 4 1 0 1 4 1 0 4 4 8 0 4 4 1 0 3 4 f 0 2 4 2 0 1d 4 1 0 3a 4 1 0 4",
  "4 6 0 6 4 1 0 14 4 4 0 18 4 5 0 39 4 2 0 3 4 1b 0 14 4 2 0 3 4 1 0 b 4 2 0 39 4 1 0 4 4 8 0 4",
  "4 3 0 12 4 4 0 14 4 8 0 3a 4 1 0 2 4 1 0 1 4 6 0 6 4 a 0 b 4 4 0 1c 4 1 0 3d 4 1 0 c 4 3 0 30",
  "4 1 0 3 4 1 0 37 4 1 0 1 4 3 0 5 4 12 0 a 4 4 0 1b 4 1 0 3a 4 1 0 2 4 1 0 6 4 1 0 5 4 9 0 d 4",
  "4 0 1a 4 2 0 39 4 2 0 4 4 5 0 7 4 1 0 14 4 4 0 1b 4 1 0 48 4 5 0 3 4 6 0 59 4 1 0 2 4 b 0 8 4",
  "8 0 62 4 1 0 2 4 9 0 b 4 8 0 48 4 2 0 1b 4 1 0 1 4 1 0 1 4 1 0 37 4 e 0 1 4 5 0 1 4 2 0 5 4 31",
  "0 8 4 1 0 66 4 4 0 1 4 6 0 1 4 2 0 2 4 2 0 19 4 2 0 4 4 3 0 10 4 4 0 d 4 1 0 2 4 2 0 6 4 1 0 f",
  "4 1 0 2bf 4 3 0 3b2 4 3 0 1d 4 2 0 1e 4 e 0 12 4 e 0 37 4 7 0 8 4 1 0 2 4 b 0 9 4 3 0 27 1 1 0",
  "18 1 60 0 5 4 2 1 22 4 1 1 6 0 70 4 3 0 4 4 2 0 9 4 1 0 6 4 7 0 d7 4 2 0 2 4 3 0 38 4 1 0 1 4",
  "9 0 1 4 1 0 2 4 8 0 6 4 d 0 30 4 54 0 30 4 1 0 1 4 5 0 1 4 1 0 5 4 1 0 28 4 9 0 c 4 2 0 20 4 4",
  "0 2 4 2 0 1 4 3 0 38 4 1 0 1 4 2 0 3 4 1 0 1 4 3 0 3a 4 8 0 2 4 5 0 95 4 3 0 1 4 d 0 1 4 7 0 4",
  "4 1 0 6 4 1 0 3 4 2 0 c6 4 41 0 2cf 4 34 0 beb 4 4 0 8c 4 1 0 60 4 20 0 22a 4 4 0 6b 4 4 0",
  "75d2 4 4 0 1 4 a 0 20 4 2 0 50 4 2 0 110 4 1 0 3 4 1 0 4 4 1 0 19 4 2 0 5 4 4 0 10 1 32 2 1 0",
  "51 4 a 0 12 4 12 0 d 4 1 0 26 4 8 0 19 4 b 0 2e 4 3 0 30 4 1 0 2 4 4 0 2 4 2 0 27 4 1 0 43 4 6",
  "0 2 4 2 0 2 4 b 0 3 4 1 0 8 4 1 0 2f 4 1 0 33 4 1 0 1 4 3 0 2 4 2 0 5 4 2 0 1 4 1 0 2a 4 2 0 8",
  "4 b 0 e4 4 1 0 2 4 1 0 4 4 3 0 4f2e 4 94 0 26e 4 25 0 3b8 4 83 0 60 4 1 0 95 4 a 0 681 4 f 0",
  "28 4 8 0 80 1 5 3 1 0 1 3 1 0 1 3 2 0 2 2 1 3 5 1 4 2 1 1 5 3 1 1 3 3 1 0 2 3 1 4 6 1 4 3 1 0",
  "90 1 1 3 1 1 1 3 3 1 3 3 1 1 2 3 1 1 1 3 2 1 1 3 8 0 10 3 4 1 2 0 151 2 1 1 21 3 1 1 1 4 c 0",
  "39 4 5 0 13d 4 2 0 15 3 1 1 2 0 1 1 a 0 2a 4 6 0 30 1 3 3 1 1 11 0 1 4 b 1 3 3 1 0 1b 1 4 3 2",
  "1 c 4 4 0 2a 1 1 0 1 1 2 3 3 0 1 1 1 3 2 1 2 3 1 1 2 0 1 1 1 3 2 1 1 0 4 3 1 1 1 2 15 0 21 4 1",
  "0 36 4 f 0 29 4 1 0 2 4 2 0 a 4 3 0 31 4 4 0 2 4 2 0 7 4 e 0 30 4 3 0 24 4 5 0 1 4 9 0 3d 4 1",
  "0 c 4 2 0 34 4 9 0 a 4 4 0 2 4 1 0 5f 4 3 0 2 4 1 0 1 4 2 0 6 4 1 0 2 4 3f 0 5f 4 1 0 3 4 d 0",
  "10 4 2 0 39 4 2 0 3 4 1 0 25 4 1a 0 3b 4 7 0 c 4 1 0 1 4 1 0 1 4 1 0 e 4 1f 0 38 4 8 0 2 4 3 0",
  "1 4 1 0 17 4 1 0 54 4 6 0 1 4 1 0 4 4 2 0 1 4 2 0 ee 4 6 0 4 4 2 0 1 4 2 0 1b 4 24 0 33 4 8 0",
  "2 4 1 0 1 4 2 0 6a 4 1 0 1 4 1 0 2 4 6 0 1 4 1 0 65 4 1 0 1 4 1 0 2 4 4 0 1 4 9 0 ff 4 9 0 1 4",
  "2 0 100 4 2 0 1 4 1 0 4 4 1 0 90 4 8 0 4 4 1 0 20 4 a 0 28 4 6 0 2 4 4 0 8 4 9 0 1 4 6 0 2 4 3",
  "0 2e 4 d 0 1 4 2 0 c6 4 1 0 1 4 3 0 1 4 1 0 c9 4 e 0 1 4 1 0 52 4 17 0 1 4 7 0 1 4 2 0 1 4 4b",
  "0 31 4 15 0 1 4 9 0 40 4 3 0 2 4 1 0 1 4 1 0 15b 4 2 0 b 4 2 0 34 4 8 0 2 4 1 0 1 4 1 0 17 4",
  "56 0 1490 4 1 0 6 4 19 0 2cbe 4 c 0 3 4 3 0 9c0 4 5 0 3b 4 7 0 418 4 1 0 3f 4 4 0 51 4 c 0",
  "4cad 4 2 0 1261 4 50 0 217 4 3 0 11 4 8 0 2 4 7 0 1e 4 4 0 94 4 3 0 7bb 4 37 0 4 4 32 0 8 4 1",
  "0 e 4 1 0 16 4 465 0 100 4 100 0 30 4 7 0 177 4 12 0 2c 4 4 0 1fc 4 4 0 fe 4 2 0 f3 4 1 0 2 4",
  "1 0 7 4 2 0 5 4 9 0 1d2 4 52 1 22 4 c 0"]

/-- The ways of joining by number as a table. -/
def joiningTable : StepTable Nat := .ofClassRows joiningRows

namespace Joining

/-- The way of joining of a number. -/
def ofClass : Nat → Joining
  | 1 => .both
  | 2 => .left
  | 3 => .right
  | 4 => .transparent
  | _ => .none

/-- How a character that names may have joins its neighbours. -/
def of (c : Char) : Joining := ofClass (joiningTable.classOf c)

/-- The character that keeps its neighbours apart. -/
def nonJoiner : Char := '\u200c'

/-- The character that joins its neighbours. -/
def joiner : Char := '\u200d'

/-- The class of the marks that suppress a vowel. -/
def vowelSuppressor : Nat := 9

/-- Whether the first character that is not passed over joins in a way, or in both. -/
def meets (way : Joining) (s : List Char) : Bool :=
  match s.find? fun c => of c ≠ .transparent with
  | Option.none => false
  | some c => of c = way || of c = .both

/-- Whether all joiners of a text have a place, behind what stands before it in reverse. -/
def allPlaced (before : List Char) : List Char → Bool
  | [] => true
  | c :: rest =>
    let placed :=
      if c = nonJoiner ∨ c = joiner then
        before.head?.any (markClass · = vowelSuppressor)
          || (c = nonJoiner && meets .left before && meets .right rest)
      else true
    placed && allPlaced (c :: before) rest

end Joining

end VmDeploy.Domain
