import VmDeploy.Json.Fault
import VmDeploy.Text.Utf8

/-!
# Reading JSON text

A reader takes bytes from the front of a text and leaves the rest. The first
fault met from the left ends the reading.

Nesting is limited: a list or an object inside `levels` others is the last
that may be opened, which makes reading a value a recursion on `levels`. The
loops over items, digits and characters are bounded by the length of the text,
since each round takes a byte.

A number without point and exponent that fits sixty-four bits is a whole
number. Any other number is the significand, as far as it fits sixty-four
bits, multiplied or divided by a power of ten, each rounded; minus zero is a
floating-point number too.
-/

set_option autoImplicit false

namespace VmDeploy.Json

/-- Reads from the front of a text. -/
abbrev Reader (α : Type) := StateT (List UInt8) (Except Fault) α

namespace Reader

/-- Ends with a fault of the text. -/
def fail {α : Type} (fault : SyntaxFault) : Reader α := throw (.text fault)

/-- The next byte as the character of its number, without taking it. -/
def peek : Reader (Option Char) := do
  return (← get).head?.map fun b => Char.ofNat b.toNat

/-- Takes one byte. -/
def skip : Reader Unit := modify (·.drop 1)

/-- The next byte, taken. -/
def next : Reader (Option Char) := do
  let c ← peek
  skip
  return c

/-- Whether a character is a blank between two tokens. -/
def isBlank (c : Char) : Bool := c = ' ' || c = '\n' || c = '\t' || c = '\r'

/-- The next byte behind the blanks, which are taken. -/
def peekToken : Reader (Option Char) := do
  modify (·.dropWhile fun b => isBlank (Char.ofNat b.toNat))
  peek

/-- Takes the rest of a word whose first letter was taken. -/
def word : List Char → Reader Unit
  | [] => pure ()
  | c :: rest => do
    match ← next with
    | none => fail .endInValue
    | some d => if d = c then word rest else fail .expectedWord

/-- The value of a decimal digit. -/
def digit? (c : Char) : Option Nat :=
  if '0' ≤ c ∧ c ≤ '9' then some (c.toNat - '0'.toNat) else none

/-- The digits that follow, taken. -/
def digits : Reader (List Nat) := do
  let isDigit (b : UInt8) : Bool := (digit? (Char.ofNat b.toNat)).isSome
  let text ← get
  set (text.dropWhile isDigit)
  return (text.takeWhile isDigit).filterMap fun b => digit? (Char.ofNat b.toNat)

/-- Appends digits to a number as long as it stays below `bound`; the second part of the
result is how many digits were left out. -/
def appendDigits (bound : Nat) (value : Nat) : List Nat → Nat × Nat
  | [] => (value, 0)
  | d :: rest =>
    if value * 10 + d < bound then appendDigits bound (value * 10 + d) rest
    else (value, rest.length + 1)

/-- The floating-point number of a significand and an exponent. -/
def double (negative : Bool) (significand : Nat) (exponent : Int) : Reader JsonNumber :=
  match Binary64.ofDecimal? negative significand exponent with
  | some x => return .double x
  | none => fail .numberOutOfRange

/-- The exponent behind its letter, which is next, and the number it ends. -/
def exponent (negative : Bool) (significand : Nat) (start : Int) : Reader JsonNumber := do
  skip
  let down ← do
    match ← peek with
    | some '+' => skip; pure false
    | some '-' => skip; pure true
    | _ => pure false
  match (← peek).map digit? with
  | none => fail .endInValue
  | some none => fail .invalidNumber
  | some (some _) =>
    match appendDigits (UInt32.size / 2) 0 (← digits) with
    | (value, 0) =>
      double negative significand (if down then start - value else start + value)
    | (_, _ + 1) =>
      if significand ≠ 0 ∧ ¬ down then fail .numberOutOfRange
      else return .double (Binary64.zero negative)

/-- What follows the digits of a floating-point number: an exponent or nothing. -/
def exponentOrEnd (negative : Bool) (significand : Nat) (start : Int) : Reader JsonNumber := do
  match ← peek with
  | some 'e' | some 'E' => exponent negative significand start
  | _ => double negative significand start

/-- The fraction behind its point, which is next, and the number it belongs to. Digits
that no longer fit the significand do not count. -/
def fraction (negative : Bool) (significand : Nat) (start : Int) : Reader JsonNumber := do
  skip
  match ← digits with
  | [] =>
    match ← peek with
    | some _ => fail .invalidNumber
    | none => fail .endInValue
  | ds =>
    let (value, left) := appendDigits UInt64.size significand ds
    exponentOrEnd negative value (start - (ds.length - left : Nat))

/-- What follows the digits of a whole number that fits. -/
def numberEnd (negative : Bool) (significand : Nat) : Reader JsonNumber := do
  match ← peek with
  | some '.' => fraction negative significand 0
  | some 'e' | some 'E' => exponent negative significand 0
  | _ =>
    if ¬ negative then return .integer significand
    else if 1 ≤ significand ∧ significand ≤ UInt64.size / 2 then return .integer (-significand)
    else double true significand 0

/-- A number behind its sign. -/
def number (negative : Bool) : Reader JsonNumber := do
  match (← peek).map digit? with
  | none => fail .endInValue
  | some none => fail .invalidNumber
  | some (some 0) =>
    skip
    match ← digits with
    | [] => numberEnd negative 0
    | _ => fail .invalidNumber
  | some (some _) =>
    match appendDigits UInt64.size 0 (← digits) with
    | (value, 0) => numberEnd negative value
    | (value, left) =>
      match ← peek with
      | some '.' => fraction negative value left
      | _ => exponentOrEnd negative value left

/-- Four hexadecimal digits. -/
def hexEscape : Reader Nat := do
  let text ← get
  let digits := text.take 4
  if digits.length < 4 then fail .endInString
  else
    set (text.drop 4)
    match digits.mapM fun b => Text.Hex.value? (Char.ofNat b.toNat) with
    | some values => return values.foldl (fun n d => n * 16 + d) 0
    | none => fail .invalidEscape

/-- The next byte of a string, taken if it is the one asked for. -/
def surrogateMark (c : Char) : Reader Unit := do
  match ← peek with
  | none => fail .endInString
  | some d => if d = c then skip else fail .endOfHexEscape

/-- A character given by its number: one escape, or the two of a surrogate pair. -/
def unicodeEscape : Reader Char := do
  let high ← hexEscape
  if 0xDC00 ≤ high ∧ high ≤ 0xDFFF then fail .loneSurrogate
  else if high < 0xD800 ∨ 0xDBFF < high then return Char.ofNat high
  else
    surrogateMark '\\'
    surrogateMark 'u'
    let low ← hexEscape
    if low < 0xDC00 ∨ 0xDFFF < low then fail .loneSurrogate
    else return Char.ofNat (0x10000 + (high - 0xD800) * 0x400 + (low - 0xDC00))

/-- The bytes that an escape stands for; its backslash is taken. -/
def escape : Reader (List UInt8) := do
  let one (c : Char) : List UInt8 := Text.Utf8.encode (String.singleton c)
  match ← next with
  | none => fail .endInString
  | some '"' => return one '"'
  | some '\\' => return one '\\'
  | some '/' => return one '/'
  | some 'b' => return one '\x08'
  | some 'f' => return one '\x0c'
  | some 'n' => return one '\n'
  | some 'r' => return one '\r'
  | some 't' => return one '\t'
  | some 'u' => return one (← unicodeEscape)
  | some _ => fail .invalidEscape

/-- The bytes of a string behind its first quote, up to and with its last; `read` holds the
bytes read so far in reverse. -/
def stringBytes : (fuel : Nat) → (read : List UInt8) → Reader (List UInt8)
  | 0, _ => fail .endInString
  | fuel + 1, read => do
    match ← get with
    | [] => fail .endInString
    | b :: rest =>
      let c := Char.ofNat b.toNat
      set rest
      if c = '"' then return read.reverse
      else if c = '\\' then do
        let bytes ← escape
        stringBytes fuel (bytes.reverse ++ read)
      else if b.toNat < 0x20 then fail .controlCharacter
      else stringBytes fuel (b :: read)

/-- A string behind its first quote. -/
def string : Reader String := do
  let fuel := (← get).length + 1
  match Text.Utf8.decode? (← stringBytes fuel []) with
  | some s => return s
  | none => fail .invalidCodePoint

/-- Whether another item of a list follows; the comma before it is taken. -/
def moreItems (first : Bool) : Reader Bool := do
  match ← peekToken with
  | none => fail .endInList
  | some ']' => return false
  | some c =>
    if first then return true
    else if c = ',' then
      skip
      match ← peekToken with
      | none => fail .endInValue
      | some ']' => fail .trailingComma
      | some _ => return true
    else fail .expectedListEnd

/-- Whether another key of an object follows; the comma before it is taken. -/
def moreKeys (first : Bool) : Reader Bool := do
  match ← peekToken with
  | none => fail .endInObject
  | some '\x7d' => return false
  | some c =>
    if first then
      if c = '"' then return true else fail .keyNotString
    else if c = ',' then
      skip
      match ← peekToken with
      | none => fail .endInValue
      | some '"' => return true
      | some '\x7d' => fail .trailingComma
      | some _ => fail .keyNotString
    else fail .expectedObjectEnd

/-- The colon behind a key. -/
def colon : Reader Unit := do
  match ← peekToken with
  | none => fail .endInObject
  | some ':' => skip
  | some _ => fail .expectedColon

/-- A key, whose first quote is next, and the colon behind it. -/
def key : Reader String := do
  skip
  let name ← string
  colon
  return name

/-- The end of a list. -/
def listEnd : Reader Unit := do
  match ← peekToken with
  | none => fail .endInList
  | some ']' => skip
  | some ',' =>
    skip
    match ← peekToken with
    | some ']' => fail .trailingComma
    | _ => fail .trailingCharacters
  | some _ => fail .trailingCharacters

/-- The end of an object. -/
def objectEnd : Reader Unit := do
  match ← peekToken with
  | none => fail .endInObject
  | some '\x7d' => skip
  | some ',' => fail .trailingComma
  | some _ => fail .trailingCharacters

/-- The items of a list, read with `item`. -/
def items {α : Type} (item : Reader α) : (fuel : Nat) → (first : Bool) → Reader (List α)
  | 0, _ => fail .endInList
  | fuel + 1, first => do
    if ← moreItems first then
      let x ← item
      return x :: (← items item fuel false)
    else return []

/-- The entries of an object in the order of the text, their values read with `item`. -/
def entries {α : Type} (item : Reader α) :
    (fuel : Nat) → (first : Bool) → Reader (List (String × α))
  | 0, _ => fail .endInObject
  | fuel + 1, first => do
    if ← moreKeys first then
      let name ← key
      let x ← item
      return (name, x) :: (← entries item fuel false)
    else return []

/-- A value that is no list and no object; `none` where one of these begins. -/
def scalar? : Reader (Option Json) := do
  match ← peekToken with
  | none => fail .endInValue
  | some 'n' => skip; word ['u', 'l', 'l']; return some .null
  | some 't' => skip; word ['r', 'u', 'e']; return some (.bool true)
  | some 'f' => skip; word ['a', 'l', 's', 'e']; return some (.bool false)
  | some '-' => skip; return some (.number (← number true))
  | some '"' => skip; return some (.string (← string))
  | some '[' => return none
  | some '\x7b' => return none
  | some c =>
    if (digit? c).isSome then return some (.number (← number false)) else fail .expectedValue

/-- A value inside which `levels` lists and objects may be opened one in another. -/
def value : (levels : Nat) → Reader Json
  | 0 => do
    match ← scalar? with
    | some x => return x
    | none => fail .tooDeep
  | levels + 1 => do
    match ← scalar? with
    | some x => return x
    | none =>
      let fuel := (← get).length + 1
      let opening ← next
      if opening = some '[' then
        let xs ← items (value levels) fuel true
        listEnd
        return .array xs
      else
        let xs ← entries (value levels) fuel true
        objectEnd
        return .object (Keyed.ofList xs)

/-- Nothing but blanks is left. -/
def atEnd : Reader Unit := do
  match ← peekToken with
  | none => return ()
  | some _ => fail .trailingCharacters

/-- How deep lists and objects may be nested in a text. -/
def maxLevels : Nat := 127

/-- Reads a whole text. -/
def run {α : Type} (reader : Reader α) (text : List UInt8) : Except Fault α :=
  (do let x ← reader; atEnd; return x : Reader α).run' text

end Reader

/-- The value that a text spells. -/
def read (text : List UInt8) : Except Fault Json := (Reader.value Reader.maxLevels).run text

/-- A value as it is read by whoever gets its text. The last digits of a fraction may come out
differently, since reading rounds more than once. -/
def received (x : Json) : Json := (read (Text.Utf8.encode x.compact)).toOption.getD x

/-- Text is read as it is written. -/
example :
    (read "[1, -0, \"a\\u00e9\", \x7b\"b\": null, \"a\": true\x7d]".toUTF8.toList).toOption.map compact
      = some "[1,-0.0,\"aé\",\x7b\"a\":true,\"b\":null\x7d]" := by
  decide +kernel

end VmDeploy.Json
