/-!
# Spans of time

A span is a whole count of nanoseconds. Waits are given in milliseconds. In
messages a span is shown in the largest of seconds, milliseconds, microseconds
and nanoseconds of which it has at least one, with as many decimals as it
needs.
-/

set_option autoImplicit false

namespace VmDeploy

/-- A span of time. -/
structure Duration where
  nanos : Nat
  deriving DecidableEq, Repr, Inhabited

namespace Duration

/-- The span of so many milliseconds. -/
def ofMillis (n : Nat) : Duration := ⟨n * 1000000⟩

/-- The whole milliseconds of a span. -/
def toMillis (d : Duration) : Nat := d.nanos / 1000000

/-- The shortest span. -/
def zero : Duration := ⟨0⟩

instance : Add Duration := ⟨fun a b => ⟨a.nanos + b.nanos⟩⟩

/-- What is left of a span, nothing if the other is longer. -/
instance : Sub Duration := ⟨fun a b => ⟨a.nanos - b.nanos⟩⟩

instance : LT Duration := ⟨fun a b => a.nanos < b.nanos⟩

instance : LE Duration := ⟨fun a b => a.nanos ≤ b.nanos⟩

instance (a b : Duration) : Decidable (a < b) := inferInstanceAs (Decidable (a.nanos < b.nanos))

instance (a b : Duration) : Decidable (a ≤ b) := inferInstanceAs (Decidable (a.nanos ≤ b.nanos))

/-- The digits of a fraction of so many places, without zeros at its end. -/
def fractionDigits (places fraction : Nat) : List Char :=
  let digits := (toString fraction).toList
  let padded := List.replicate (places - digits.length) '0' ++ digits
  (padded.reverse.dropWhile (· = '0')).reverse

/-- A count of `10 ^ places` parts each, with the decimals that it needs. -/
def decimalText (parts places : Nat) : String :=
  let whole := toString (parts / Nat.pow 10 places)
  match fractionDigits places (parts % Nat.pow 10 places) with
  | [] => whole
  | digits => whole ++ "." ++ String.ofList digits

/-- A span as messages show it. -/
def text (d : Duration) : String :=
  if 1000000000 ≤ d.nanos then decimalText d.nanos 9 ++ "s"
  else if 1000000 ≤ d.nanos then decimalText d.nanos 6 ++ "ms"
  else if 1000 ≤ d.nanos then decimalText d.nanos 3 ++ "µs"
  else toString d.nanos ++ "ns"

@[simp] theorem nanos_add {a b : Duration} : (a + b).nanos = a.nanos + b.nanos := rfl

theorem le_iff {a b : Duration} : a ≤ b ↔ a.nanos ≤ b.nanos := .rfl

/-- The span of a number of milliseconds has so many. -/
@[simp] theorem toMillis_ofMillis (n : Nat) : (ofMillis n).toMillis = n := by
  simp [ofMillis, toMillis]

example : (ofMillis 1500).text = "1.5s" := by decide +kernel

example : (Duration.mk 999999).text = "999.999µs" := by decide +kernel

example : zero.text = "0ns" := by decide +kernel

end Duration

end VmDeploy
