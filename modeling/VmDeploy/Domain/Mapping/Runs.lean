import VmDeploy.Text.StepTable

/-!
# Runs of other forms

Many characters that are written in another form stand in runs: capital
letters side by side, or each in front of its small letter. In such a run the
usual forms stand at the same distances as the characters themselves.
-/

set_option autoImplicit false

namespace VmDeploy.Domain

/-- A run of characters and the usual form of its first. -/
structure Run where
  count : Nat
  /-- The distance from one to the next. -/
  step : Nat
  target : Nat
  deriving DecidableEq, Repr

/-- For each run the distance of its first character from that of the run before, the count,
the step and the usual form of the first. -/
def runRows : List String := [
  "41 1a 1 61 7f 17 1 e0 18 7 1 f8 28 18 2 101 39 3 2 13a 8 4 2 142 9 17 2 14b 2f 3 2 17a 27 3 2",
  "1a1 2d 8 2 1ce 11 9 2 1df 1a 14 2 1f9 2a 9 2 223 24 5 2 247 142 3 1 3ad 9 11 1 3b1 12 9 1 3c3",
  "35 c 2 3d9 25 3 1 37b 3 10 1 450 10 20 1 430 50 11 2 461 2a 1b 2 48b 37 7 2 4c2 f 30 2 4d1 61",
  "26 1 561 b6f 26 1 2d00 358 6 1 13f0 898 2b 1 10d0 2d 3 1 10fd 76 8 1 67 2a 3 1 3b2 47 3 1 268",
  "a 4 1 272 e 3 1 290 44 4b 2 1e01 a0 30 2 1ea1 68 8 1 1f00 10 6 1 1f10 10 8 1 1f20 10 8 1 1f30",
  "10 6 1 1f40 11 4 2 1f51 f 8 1 1f60 10c 6 1 34 c a 1 30 16 4 1 6b 83 3 1 70 1c 4 1 5d0 32b 9 1",
  "31 56 1a 1 61 1a 1a 1 61 730 30 1 2c30 67 3 2 2c68 19 32 2 2c81 4b7 3 1 1103 3 6 1 11b0 7 3 1",
  "1106 4 a 1 1109 a 15 1 1161 29 5 1 112b c 3 1 1157 df 3 1 1105 6 5 1 110e 7b 6 1 30ca a 5 1",
  "30de 7 6 1 30e8 6 4 1 30ef 7345 17 2 a641 40 e 2 a681 a2 7 2 a723 10 1f 2 a733 4c 5 2 a77f 18",
  "a 2 a797 1e 8 2 a7b5 18 8 2 a7cd 3a4 50 1 13a0 4fb4 3 1 5db 31d 4 1 300c c0 20 1 21 20 1a 1 61",
  "1a 24 1 5b 4a 6 1 30ca a 5 1 30de 7 6 1 30e8 11 3 1 1103 3 6 1 11b0 7 3 1 1106 4 a 1 1109 d 6",
  "1 1161 8 6 1 1167 8 6 1 116d 8 3 1 1173 f 4 1 2190 417 28 1 10428 b0 24 1 104d8 c0 b 1 10597 c",
  "f 1 105a3 10 7 1 105b3 22a 3 1 1c0 4ca 33 1 10cc0 d0 16 1 10d70 b50 20 1 118c0 55a0 20 1 16e60",
  "60 19 1 16ebb 5e36 1a 1 61 1a a 1 30 710 1a 1 61 1a 1a 1 61 1a 1a 1 61 1a 7 1 61 8 12 1 69 12",
  "1a 1 61 1a 1a 1 61 27 4 1 6e 5 8 1 73 8 4 1 61 7 7 1 68 8 b 1 70 b 1a 1 61 1a 1a 1 61 1d 4 1",
  "64 6 8 1 6a 9 7 1 73 8 1a 1 61 1d 4 1 64 5 5 1 69 a 7 1 73 8 1a 1 61 1a 1a 1 61 1a 1a 1 61 1a",
  "1a 1 61 1a 1a 1 61 1a 1a 1 61 1a 1a 1 61 1a 1a 1 61 1a 1a 1 61 1a 1a 1 61 1a 1a 1 61 1a 1a 1",
  "61 1a 1a 1 61 1e 11 1 3b1 12 7 1 3c3 8 11 1 3b1 12 7 1 3c3 e 11 1 3b1 12 7 1 3c3 8 11 1 3b1 12",
  "7 1 3c3 e 11 1 3b1 12 7 1 3c3 8 11 1 3b1 12 7 1 3c3 e 11 1 3b1 12 7 1 3c3 8 11 1 3b1 12 7 1",
  "3c3 e 11 1 3b1 12 7 1 3c3 8 11 1 3b1 12 7 1 3c3 12 a 1 30 a a 1 30 a a 1 30 a a 1 30 a a 1 30",
  "83a 9 1 430 9 3 1 43a 3 b 1 43e 15 9 1 430 e 6 1 443 8a1 22 1 1e922 50a 4 1 643 20 4 1 643 61",
  "3 1 644 20 3 1 644 285 1a 1 61 ac0 a 1 30"]

/-- The runs that numbers spell. -/
def readRuns (start : Nat) : List Nat → List (Nat × Run)
  | gap :: count :: step :: target :: rest =>
    (start + gap, ⟨count, step, target⟩) :: readRuns (start + gap) rest
  | _ => []

/-- The runs as a table. -/
def runs : StepTable Run := .ofEntries (readRuns 0 (StepTable.numbers runRows))

/-- The usual form of a character of a run. -/
def runForm? (c : Char) : Option Char := do
  let (start, run) ← runs.at? c.toNat
  let distance := c.toNat - start
  if distance % run.step = 0 ∧ distance / run.step < run.count then
    return Char.ofNat (run.target + distance)
  else none

end VmDeploy.Domain
