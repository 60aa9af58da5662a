import VmDeploy.Number.Extended
import VmDeploy.Text.Decimal

/-!
# Numerals in tables

How a table reads numbers in texts and writes numbers as texts.

A numeral has digits, perhaps a point among them and an exponent, between
blanks of ASCII. Nineteen or twenty digits count; further ones only give the
size. A number is computed with extended precision, step by step, so its last
bit may differ from that of the nearest number.

A number is written with fifteen digits, found in the same way by scaling it
to eighteen or nineteen digits of which the sixteenth decides.
-/

set_option autoImplicit false

namespace VmDeploy

/-- A decimal numeral as it is read. -/
structure Numeral where
  negative : Bool
  /-- The digits that count. -/
  significand : Nat
  /-- The power of ten with which the significand is multiplied. -/
  exponent : Int
  /-- The value of all the digits, if the numeral has neither a point nor an exponent. -/
  whole? : Option Nat
  deriving DecidableEq, Repr

namespace Numeral

/-- A blank of ASCII. -/
def isBlank (c : Char) : Bool := c = ' ' || ('\t' ≤ c && c ≤ '\r')

/-- The number of decimal digits. -/
def number (digits : List Char) : Nat :=
  digits.foldl (fun n c => n * 10 + (Text.Decimal.digit? c).getD 0) 0

/-- The digits in front of a text, and the rest. -/
def spanDigits (s : List Char) : List Char × List Char :=
  s.span fun c => (Text.Decimal.digit? c).isSome

/-- The sign in front of a text, and the rest. -/
def spanSign : List Char → Bool × List Char
  | '-' :: rest => (true, rest)
  | '+' :: rest => (false, rest)
  | s => (false, s)

/-- A significand that has grown to this takes no more digits. -/
def significandBound : Nat := (Nat.pow 2 64 - 10) / 10

/-- An exponent that has grown to this takes no more digits. -/
def exponentBound : Nat := 10000

/-- Adds digits to a significand, and counts how many were added. -/
def addDigits (significand : Nat) : List Char → Nat × Nat
  | [] => (significand, 0)
  | c :: rest =>
    if significand < significandBound then
      let (n, count) := addDigits (significand * 10 + (Text.Decimal.digit? c).getD 0) rest
      (n, count + 1)
    else (significand, 0)

/-- The size of an exponent; it falls back to the bound if more digits follow behind it. -/
def exponentSize (digits : List Char) : Nat :=
  digits.foldl (fun n c => if n < exponentBound then n * 10 + (Text.Decimal.digit? c).getD 0
    else exponentBound) 0

/-- The exponent behind the digits of a text, and the rest. -/
def readExponent : List Char → Option (Int × List Char)
  | c :: rest =>
    if c = 'e' ∨ c = 'E' then
      let (down, rest) := spanSign rest
      let (digits, rest) := spanDigits rest
      let size := exponentSize digits
      if digits.isEmpty then none else some (if down then -(size : Int) else size, rest)
    else some (0, c :: rest)
  | [] => some (0, [])

/-- Reads a text that is a numeral and nothing else. -/
def read? (text : String) : Option Numeral := do
  let (negative, s) := spanSign (text.toList.dropWhile isBlank)
  let (whole, s) := spanDigits s
  let pointed := s.head? = some '.'
  let (fraction, s) := if pointed then spanDigits (s.drop 1) else ([], s)
  let exponential := s.any fun c => c = 'e' || c = 'E'
  let (exponent, s) ← readExponent s
  if ¬ (s.dropWhile isBlank).isEmpty ∨ (whole.isEmpty ∧ fraction.isEmpty) then none
  else
    let (front, taken) := addDigits 0 whole
    let (significand, places) := addDigits front fraction
    let exponent := exponent + (whole.length - taken : Nat) - places
    let whole? := if pointed ∨ exponential then none else some (number whole)
    return ⟨negative, significand, exponent, whole?⟩

/-- Moves powers of ten into a significand as long as it stays below two to the sixty-fourth. -/
def moveUp (significand : Nat) : (exponent : Nat) → Nat × Nat
  | 0 => (significand, 0)
  | left + 1 =>
    if significand < (Nat.pow 2 64 - 1) / 10 then moveUp (significand * 10) left
    else (significand, left + 1)

/-- Moves zeros at the end of a significand into an exponent below zero. -/
def moveDown (significand : Nat) : (exponent : Nat) → Nat × Nat
  | 0 => (significand, 0)
  | left + 1 =>
    if significand % 10 = 0 then moveDown (significand / 10) left else (significand, left + 1)

/-- The number that a numeral stands for; none if it is greater than any. -/
def value? (n : Numeral) : Option Binary64 :=
  if n.significand = 0 then some (.zero n.negative)
  else
    let (significand, exponent) : Nat × Int :=
      if 0 ≤ n.exponent then
        let (s, left) := moveUp n.significand n.exponent.toNat
        (s, left)
      else
        let (s, left) := moveDown n.significand n.exponent.natAbs
        (s, -(left : Int))
    ((Extended.ofNat significand).shiftDecimal exponent).toBinary64? n.negative

/-- Multiplies by a power of ten as long as a number passes a test, at most so many times. The
second number counts the decimal places. -/
def scaleWhile (test : Extended → Bool) (places : Int) :
    (tries : Nat) → Extended × Int → Extended × Int
  | 0, state => state
  | tries + 1, (x, moved) =>
    if test x then
      scaleWhile test places tries (x.mul (.powerOfTen places), moved + places)
    else (x, moved)

/-- Scales a positive number to eighteen or nineteen digits before the point. -/
def scaled (x : Binary64) : Extended × Int :=
  let tries := 32
  let up (bound places : Int) := scaleWhile (·.lt (.powerOfTen bound)) places tries
  let down (bound places : Int) := scaleWhile (fun y => !y.lt (.powerOfTen bound)) (-places) tries
  let start := Extended.ofBinary64 x
  if start.lt (.powerOfTen 19) then up 17 1 (up 7 10 (up (-97) 100 (start, 0)))
  else down 19 1 (down 29 10 (down 119 100 (start, 0)))

/-- Fifteen digits of a positive number, and the power of ten just above it. -/
def fifteenDigits (x : Binary64) : Nat × Int :=
  let (y, moved) := scaled x
  let count := (toString y.floor).length
  let kept := y.floor / Nat.pow 10 (count - 16)
  let rounded := (kept + 5) / 10
  let top := count - moved
  if rounded = Nat.pow 10 15 then (Nat.pow 10 14, top + 1) else (rounded, top)

/-- A floating-point number as it is written: with fifteen digits at most, and in scientific
notation beyond them. -/
def write (x : Binary64) : String :=
  if x.isZero then "0.0"
  else
    let (digits, top) := fifteenDigits x
    let significant := ((toString digits).toList.reverse.dropWhile (· = '0')).reverse
    let orZero (s : List Char) : List Char := if s.isEmpty then ['0'] else s
    let body :=
      if -4 < top ∧ top ≤ 15 then
        if top ≤ 0 then '0' :: '.' :: List.replicate (-top).toNat '0' ++ significant
        else
          let places := top.toNat
          let padded := significant ++ List.replicate (places - significant.length) '0'
          padded.take places ++ '.' :: orZero (padded.drop places)
      else
        let exponent := (top - 1).natAbs
        significant.take 1 ++ '.' :: orZero (significant.drop 1)
          ++ ['e', if top ≤ 0 then '-' else '+']
          ++ (if exponent < 10 then ['0'] else []) ++ (toString exponent).toList
    String.ofList ((if x.negative then ['-'] else []) ++ body)

/-- A numeral that is read stands between blanks. -/
example : (read? " 12.50e1\n").bind value? = Binary64.round? false 125 1 := by decide +kernel

example : read? "1 2" = none := by decide +kernel

end Numeral

end VmDeploy
