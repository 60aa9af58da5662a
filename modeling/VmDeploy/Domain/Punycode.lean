import VmDeploy.Text.Decimal

/-!
# International labels in ASCII

A label with characters beyond ASCII is written in ASCII as its ASCII
characters, a hyphen, and a row of numbers. Each number tells how far to go to
the next character that is put in: over the places of the label, and then to
the next character in the order of their numbers. The numbers are written with
letters and digits, the least significant digit first. A digit below a
threshold ends its number, and the thresholds follow the size of the numbers.
-/

set_option autoImplicit false

namespace VmDeploy.Domain.Punycode

/-- How many digits there are. -/
def base : Nat := 36

/-- The least and the greatest threshold. -/
def thresholds : Nat × Nat := (1, 26)

/-- The bias at the start. -/
def firstBias : Nat := 72

/-- The first character beyond ASCII. -/
def firstNumber : Nat := 0x80

/-- Numbers stay below this bound. -/
def wordBound : Nat := Nat.pow 2 32

/-- The digit of a value. -/
def digit (value : Nat) : Char :=
  if value < 26 then Char.ofNat ('a'.toNat + value) else Char.ofNat ('0'.toNat + (value - 26))

/-- The value of a digit; letters stand before digits. -/
def value? (c : Char) : Option Nat :=
  if 'a' ≤ c ∧ c ≤ 'z' then some (c.toNat - 'a'.toNat)
  else if 'A' ≤ c ∧ c ≤ 'Z' then some (c.toNat - 'A'.toNat)
  else (Text.Decimal.digit? c).map (· + 26)

/-- The threshold of the digit whose place, counted in digits of the base, is given. -/
def threshold (place bias : Nat) : Nat :=
  max thresholds.1 (min thresholds.2 (place - bias))

/-- A threshold is between the least and the greatest. -/
theorem threshold_bounds (place bias : Nat) :
    1 ≤ threshold place bias ∧ threshold place bias ≤ 26 := by
  simp only [threshold, thresholds]
  omega

/-- Counts how often a number is divided until it is small. -/
def settle (delta places : Nat) : Nat × Nat :=
  if (base - thresholds.1) * thresholds.2 / 2 < delta then
    settle (delta / (base - thresholds.1)) (places + base)
  else (delta, places)
  termination_by delta
  decreasing_by
    simp only [base, thresholds] at *
    omega

/-- The bias behind a number, which moved to one of so many places. -/
def adapt (delta places : Nat) (isFirst : Bool) : Nat :=
  let halved := if isFirst then delta / 700 else delta / 2
  let (delta, settled) := settle (halved + halved / places) 0
  settled + (base - thresholds.1 + 1) * delta / (delta + 38)

/-- Reads a number behind `sum`, whose next digit has a place and a weight; the result is the
sum and the rest. -/
def readNumber (bias : Nat) : (place weight sum : Nat) → List Char → Option (Nat × List Char)
  | _, _, _, [] => none
  | place, weight, sum, c :: rest => do
    let d ← value? c
    let sum := sum + d * weight
    let t := threshold place bias
    if wordBound ≤ sum then none
    else if d < t then some (sum, rest)
    else if wordBound ≤ weight * (base - t) then none
    else readNumber bias (place + base) (weight * (base - t)) sum rest

/-- A number takes at least one digit. -/
theorem readNumber_length {bias place weight sum n : Nat} {s rest : List Char}
    (h : readNumber bias place weight sum s = some (n, rest)) : rest.length < s.length := by
  induction s generalizing place weight sum with
  | nil => simp [readNumber] at h
  | cons c s ih =>
    simp only [readNumber, Option.bind_eq_bind, Option.bind_eq_some_iff] at h
    obtain ⟨d, _, h⟩ := h
    split at h
    · cases h
    · split at h
      · cases h
        simp
      · split at h
        · cases h
        · have := ih h
          simp only [List.length_cons]
          omega

/-- Puts in the characters that a row of numbers tells; `reached` is the character and `place`
the place up to which everything was put in. -/
def insertAll (label : List Char) (reached place bias : Nat) (s : List Char) :
    Option (List Char) :=
  if s.isEmpty then some label
  else
    match _h : readNumber bias base 1 place s with
    | none => none
    | some (sum, rest) =>
      let places := label.length + 1
      let number := reached + sum / places
      if number.isValidChar then
        insertAll (label.insertIdx (sum % places) (Char.ofNat number)) number (sum % places + 1)
          (adapt (sum - place) places (place = 0)) rest
      else none
  termination_by s.length
  decreasing_by exact readNumber_length _h

/-- What stands before and behind the last hyphen. A hyphen at the front is none. -/
def splitLast (s : List Char) : List Char × List Char :=
  let behind := (s.reverse.takeWhile (· ≠ '-')).reverse
  if behind.length + 1 < s.length then (s.take (s.length - behind.length - 1), behind) else ([], s)

/-- The label that a text in ASCII spells. -/
def decode? (s : List Char) : Option (List Char) :=
  let (ascii, numbers) := splitLast s
  if ascii.any fun c => firstNumber ≤ c.toNat then none
  else insertAll ascii firstNumber 0 firstBias numbers

/-- The digits of a number from a place on. -/
def writeNumber (bias place n : Nat) : List Char :=
  let t := threshold place bias
  if n < t then [digit n]
  else digit (t + (n - t) % (base - t)) :: writeNumber bias (place + base) ((n - t) / (base - t))
  termination_by n
  decreasing_by
    have bounds := threshold_bounds place bias
    have : (n - threshold place bias) / (base - threshold place bias)
        ≤ n - threshold place bias := Nat.div_le_self _ _
    omega

/-- How far the writing of a label has come. -/
structure Progress where
  /-- How far it is from the last character that was put in. -/
  delta : Nat
  bias : Nat
  /-- How many characters are in. -/
  count : Nat
  /-- The digits so far. -/
  written : List Char

/-- Passes a character of the label while the character of a number is put in. -/
def pass (number ascii : Nat) (p : Progress) (c : Char) : Progress :=
  if c.toNat < number then { p with delta := p.delta + 1 }
  else if c.toNat = number then
    { delta := 0
      bias := adapt p.delta (p.count + 1) (p.count = ascii)
      count := p.count + 1
      written := p.written ++ writeNumber p.bias base p.delta }
  else p

/-- Puts in the characters of the given numbers, which ascend; `reached` is the character up to
which everything was put in. -/
def writeAll (label : List Char) (ascii : Nat) : List Nat → Nat → Progress → List Char
  | [], _, p => p.written
  | number :: rest, reached, p =>
    let start := { p with delta := p.delta + (number - reached) * (p.count + 1) }
    let p := label.foldl (pass number ascii) start
    writeAll label ascii rest (number + 1) { p with delta := p.delta + 1 }

/-- A label in ASCII. -/
def encode (label : List Char) : List Char :=
  let ascii := label.filter (·.toNat < firstNumber)
  let numbers := ((label.map Char.toNat).filter (firstNumber ≤ ·)).mergeSort.eraseDups
  ascii ++ (if ascii.isEmpty then [] else ['-'])
    ++ writeAll label ascii.length numbers firstNumber ⟨0, firstBias, ascii.length, []⟩

example : String.ofList (encode "bücher".toList) = "bcher-kva" := by cbv

example : (decode? "bcher-kva".toList).map String.ofList = some "bücher" := by cbv

end VmDeploy.Domain.Punycode
