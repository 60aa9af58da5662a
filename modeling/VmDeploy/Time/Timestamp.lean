import VmDeploy.Text.Blank
import VmDeploy.Text.Decimal
import VmDeploy.Time.Calendar

/-!
# Points in time

A point in time is a second counted from the start of 1970 and the nanoseconds
into it. During a leap second the nanoseconds go on counting from a whole
second up while the second stands.

Points are exchanged as RFC 3339 texts. They are written in UTC with as many
of three, six or nine decimals as they need. Reading is more liberal: blanks
may stand between the parts and at the end, numbers may be short, the letters
may be small and any offset is taken. What is wrong with a text is found reading from the
left; whether the calendar has the day is looked at last.
-/

set_option autoImplicit false

namespace VmDeploy

/-- A point in time. -/
structure Timestamp where
  seconds : Int
  nanos : Nat
  deriving DecidableEq, Repr, Inhabited

namespace Timestamp

/-- The days that points in time may have: those of the years from -262143 to 262142. -/
def firstDay : Int := (Calendar.Day.mk (-262143) 1 1).number

/-- The last day that points in time may have. -/
def lastDay : Int := (Calendar.Day.mk 262142 12 31).number

/-- The seconds of a day. -/
def secondsPerDay : Int := 86400

/-- The milliseconds from the start of 1970, rounded down. -/
def toMillis (t : Timestamp) : Int := t.seconds * 1000 + t.nanos / 1000000

/-- The point that is so many milliseconds behind the start of 1970, if it is in range. -/
def ofMillis? (n : Int) : Option Timestamp :=
  let seconds := n.fdiv 1000
  let day := seconds.fdiv secondsPerDay
  if firstDay ≤ day ∧ day ≤ lastDay then some ⟨seconds, (n.fmod 1000).toNat * 1000000⟩ else none

/-- A number with at least so many digits. -/
def padded (width n : Nat) : String :=
  let digits := toString n
  String.ofList (List.replicate (width - digits.length) '0') ++ digits

/-- The year, with a sign if it has not four digits. -/
def yearText (year : Int) : String :=
  if 0 ≤ year ∧ year ≤ 9999 then padded 4 year.toNat
  else (if year < 0 then "-" else "+") ++ padded 4 year.natAbs

/-- The decimals of a second. -/
def fractionText (nanos : Nat) : String :=
  if nanos = 0 then ""
  else if nanos % 1000000 = 0 then "." ++ padded 3 (nanos / 1000000)
  else if nanos % 1000 = 0 then "." ++ padded 6 (nanos / 1000)
  else "." ++ padded 9 nanos

/-- The RFC 3339 text of a point in time. -/
def text (t : Timestamp) : String :=
  let day := Calendar.Day.ofNumber (t.seconds.fdiv secondsPerDay)
  let second := (t.seconds.fmod secondsPerDay).toNat
  let (leap, nanos) := if 1000000000 ≤ t.nanos then (1, t.nanos - 1000000000) else (0, t.nanos)
  yearText day.year ++ "-" ++ padded 2 day.month ++ "-" ++ padded 2 day.day ++ "T"
    ++ padded 2 (second / 3600) ++ ":" ++ padded 2 (second / 60 % 60) ++ ":"
    ++ padded 2 (second % 60 + leap) ++ fractionText nanos ++ "Z"

/-- Why a text is no point in time. -/
inductive Fault where
  | outOfRange
  | impossible
  | invalid
  | tooShort
  | tooLong
  deriving DecidableEq, Repr

/-- The wording of a fault. -/
def Fault.message : Fault → String
  | .outOfRange => "input is out of range"
  | .impossible => "no possible date and time matching input"
  | .invalid => "input contains invalid characters"
  | .tooShort => "premature end of input"
  | .tooLong => "trailing input"

/-- Reads from the front of a text. -/
abbrev Reader (α : Type) := StateT (List Char) (Except Fault) α

namespace Reader

/-- Passes over blanks. -/
def blanks : Reader Unit := modify Text.trimLeft

/-- The number of one to `width` digits that follows, and how many digits it has. Numbers
stay below two to the sixty-third. -/
def digits (width : Nat) : Reader (Nat × Nat) := do
  let s ← get
  match s with
  | [] => throw .tooShort
  | c :: _ =>
    if (Text.Decimal.digit? c).isNone then throw .invalid
    else
      let ds := (s.take width).takeWhile fun c => (Text.Decimal.digit? c).isSome
      let value := ds.foldl (fun n c => n * 10 + (Text.Decimal.digit? c).getD 0) 0
      if UInt64.size / 2 ≤ value then throw .outOfRange
      else
        set (s.drop ds.length)
        return (value, ds.length)

/-- A number of at most two digits behind blanks that lies between two bounds. -/
def component (low high : Nat) : Reader Nat := do
  blanks
  let (n, _) ← digits 2
  if low ≤ n ∧ n ≤ high then return n else throw .outOfRange

/-- A character that has to follow behind blanks. -/
def mark (c : Char) : Reader Unit := do
  blanks
  match ← get with
  | [] => throw .tooShort
  | d :: rest => if d = c then set rest else throw .invalid

/-- A year: four digits at most, or any number behind a sign. -/
def year : Reader Int := do
  blanks
  let s ← get
  let value ← match s with
    | '-' :: rest => do
      set rest
      let (n, _) ← digits rest.length
      pure (-(n : Int))
    | '+' :: rest => do
      set rest
      let (n, _) ← digits rest.length
      pure (n : Int)
    | _ => do
      let (n, _) ← digits 4
      pure (n : Int)
  if -0x80000000 ≤ value ∧ value < 0x80000000 then return value else throw .outOfRange

/-- The decimals of a second as nanoseconds, if there are any; those behind the ninth do
not count. -/
def fraction : Reader Nat := do
  match ← get with
  | '.' :: rest =>
    set rest
    let (n, count) ← digits 9
    modify (·.dropWhile fun c => (Text.Decimal.digit? c).isSome)
    return n * Nat.pow 10 (9 - count)
  | _ => return 0

/-- The values of two digits. -/
def twoDigits (a b : Char) : Option (Nat × Nat) := do
  return (← Text.Decimal.digit? a, ← Text.Decimal.digit? b)

/-- Two characters, counted in bytes; none if fewer follow. -/
def pair? : Reader (Option (Char × Char)) := do
  match ← get with
  | a :: b :: _ => return some (a, b)
  | [a] => return if a.utf8Size < 2 then none else some (a, a)
  | [] => return none

/-- The minutes of an offset. -/
def offsetMinutes : Reader Nat := do
  match ← pair? with
  | none => throw .tooShort
  | some (a, b) =>
    match twoDigits a b with
    | none => throw .invalid
    | some (x, y) =>
      if 6 ≤ x then throw .outOfRange
      else
        modify (·.drop 2)
        return 10 * x + y

/-- The distance from UTC in seconds. -/
def offset : Reader Int := do
  blanks
  match ← get with
  | [] => throw .tooShort
  | c :: rest =>
    if c = 'Z' ∨ c = 'z' then
      set rest
      return 0
    else if ((c :: rest).take 3).map Char.toUpper = ['U', 'T', 'C'] then
      set (rest.drop 2)
      return 0
    else if c = '+' ∨ c = '-' ∨ c = Char.ofNat 0x2212 then
      set rest
      match ← pair? with
      | none => throw .tooShort
      | some (a, b) =>
        match twoDigits a b with
        | none => throw .invalid
        | some (x, y) =>
          modify fun s => (s.drop 2).dropWhile fun d => d = ':' || Text.isBlank d
          let minutes ← offsetMinutes
          let seconds : Int := (10 * x + y : Nat) * 3600 + minutes * 60
          return if c = '+' then seconds else -seconds
    else throw .invalid

/-- The letter or the blank between the day and the time. -/
def separator : Reader Unit := do
  match ← get with
  | [] => throw .tooShort
  | c :: rest => if c = 'T' ∨ c = 't' ∨ c = ' ' then set rest else throw .invalid

/-- A point in time. -/
def timestamp : Reader Timestamp := do
  let y ← year
  mark '-'
  let month ← component 1 12
  mark '-'
  let d ← component 1 31
  separator
  let hour ← component 0 23
  mark ':'
  let minute ← component 0 59
  mark ':'
  let second ← component 0 60
  let nanos ← fraction
  let shift ← offset
  if Text.trimLeft (← get) ≠ [] then throw .tooLong
  let day := Calendar.Day.mk y month d
  if ¬ day.isValid ∨ y < -262143 ∨ 262142 < y then throw .outOfRange
  if shift ≤ -secondsPerDay ∨ secondsPerDay ≤ shift then throw .outOfRange
  let (shown, leap) := if second = 60 then (59, 1000000000) else (second, 0)
  let seconds := day.number * secondsPerDay + hour * 3600 + minute * 60 + shown - shift
  let utcDay := seconds.fdiv secondsPerDay
  if utcDay < firstDay ∨ lastDay < utcDay then throw .impossible
  return ⟨seconds, leap + nanos⟩

end Reader

/-- Reads an RFC 3339 text. -/
def parse (s : String) : Except Fault Timestamp := Reader.timestamp.run' s.toList

example : (parse "2024-02-29T23:30:00.5-01:00").toOption.map text
    = some "2024-03-01T00:30:00.500Z" := by
  decide +kernel

end Timestamp

end VmDeploy
