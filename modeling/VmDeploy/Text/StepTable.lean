import VmDeploy.Text.Hex

/-!
# Tables that change at few numbers

A table says something about every number, and what it says changes at few of
them. It is kept as the numbers at which it changes, in ascending order, with
what it says from there on.

In writing, a table is rows of hexadecimal numbers with blanks between them.
For each change there is its distance from the change before. What the table
says follows it, except for a set: there every change turns out into in and in
into out.
-/

set_option autoImplicit false

namespace VmDeploy

/-- What is said of numbers from each start up to the next. -/
structure StepTable (α : Type) where
  starts : Array Nat
  values : Array α

namespace StepTable

variable {α : Type}

/-- How many starts are at most a number, if those before `low` are and fewer than
`2 ^ bits` others. -/
def countUpTo (starts : Array Nat) (n : Nat) : (bits low : Nat) → Nat
  | 0, low => low
  | bits + 1, low =>
    let next := low + Nat.pow 2 bits
    if next ≤ starts.size ∧ starts.getD (next - 1) 0 ≤ n then countUpTo starts n bits next
    else countUpTo starts n bits low

/-- The last start that is at most a number, and what is said from there on. -/
def at? (t : StepTable α) (n : Nat) : Option (Nat × α) := do
  let index := countUpTo t.starts n (t.starts.size.log2 + 1) 0
  if index = 0 then none
  else return (← t.starts[index - 1]?, ← t.values[index - 1]?)

/-- A table from its starts, in ascending order, and what is said there. -/
def ofEntries (entries : List (Nat × α)) : StepTable α where
  starts := (entries.map (·.1)).toArray
  values := (entries.map (·.2)).toArray

/-- The numbers of a row, of whose first the digits read so far spell `n`. -/
def rowNumbers (n : Nat) : List Char → List Nat
  | [] => [n]
  | c :: rest =>
    if c = ' ' then n :: rowNumbers 0 rest
    else rowNumbers (16 * n + (Text.Hex.value? c).getD 0) rest

/-- The numbers of rows. -/
def numbers (rows : List String) : List Nat := rows.flatMap fun row => rowNumbers 0 row.toList

/-- The changes of a set, behind a number that is in it or not. -/
def turns (start : Nat) (inside : Bool) : List Nat → List (Nat × Bool)
  | [] => []
  | gap :: rest => (start + gap, !inside) :: turns (start + gap) (!inside) rest

/-- A set from its rows. -/
def ofSetRows (rows : List String) : StepTable Bool := ofEntries (turns 0 false (numbers rows))

/-- The changes of a table that says numbers. -/
def classes (start : Nat) : List Nat → List (Nat × Nat)
  | gap :: value :: rest => (start + gap, value) :: classes (start + gap) rest
  | _ => []

/-- A table that says numbers, from its rows. -/
def ofClassRows (rows : List String) : StepTable Nat := ofEntries (classes 0 (numbers rows))

/-- Whether a character is in a set. -/
def contains (t : StepTable Bool) (c : Char) : Bool := (t.at? c.toNat).any (·.2)

/-- The number of a character, zero before the first start. -/
def classOf (t : StepTable Nat) (c : Char) : Nat := ((t.at? c.toNat).map (·.2)).getD 0

/-- A row of three changes. -/
example : ("XYZ[".toList.map (ofSetRows ["59 2", "2"]).contains) = [false, true, true, false] := by
  decide +kernel

end StepTable

end VmDeploy
