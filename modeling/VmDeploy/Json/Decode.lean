import VmDeploy.Json.Fault

/-!
# Values of a shape

A decoder turns a JSON value into a value of a domain type or says what is
wrong with it. A record may be given as an object or, its fields in their
order, as a list.

The entries of an object are looked at in the order of their keys. The first
fault in that order is reported; if there is none, the first field, in the
order of the record, that is required and missing. Keys that belong to no
field are passed over. In a list each field has its place; the fields behind
the end of a short list take their defaults, and the first that has none is
reported, as is a list that is too long.
-/

set_option autoImplicit false

namespace VmDeploy.Json

/-- Turns a JSON value into a value of a type. -/
abbrev Decoder (α : Type) := Json → Except ShapeFault α

namespace Decoder

variable {α β : Type}

/-- Ends with a value of the wrong kind. -/
def refuse (expected : String) (x : Json) : Except ShapeFault α :=
  .error (.wrongType (.of x) expected)

/-- Any value. -/
def any : Decoder Json := .ok

/-- A string. -/
def string : Decoder String
  | .string s => .ok s
  | x => refuse "a string" x

/-- A whole number below `bound`, which is spoken of as `noun`. -/
def natBelow (bound : Nat) (noun : String) : Decoder Nat
  | .number (.integer n) =>
    if 0 ≤ n ∧ n < bound then .ok n.toNat
    else .error (.wrongValue (.number (.integer n)) noun)
  | x => refuse noun x

/-- A word of sixty-four bits. -/
def uint64 : Decoder UInt64 := fun x => (natBelow UInt64.size "u64" x).map UInt64.ofNat

/-- A word of thirty-two bits. -/
def uint32 : Decoder UInt32 := fun x => (natBelow UInt32.size "u32" x).map UInt32.ofNat

/-- A word of sixteen bits. -/
def uint16 : Decoder UInt16 := fun x => (natBelow UInt16.size "u16" x).map UInt16.ofNat

/-- A text that its own reader takes. -/
def reading {ε : Type} (message : ε → String) (read : String → Except ε α) : Decoder α := fun x => do
  match read (← string x) with
  | .ok a => return a
  | .error e => .error (.refused (message e))

/-- A list. -/
def list (item : Decoder α) : Decoder (List α)
  | .array items => items.mapM item
  | x => refuse "a sequence" x

/-- An object whose keys are free. -/
def keyed (item : Decoder α) : Decoder (Keyed α)
  | .object fields => do
    let entries ← fields.mapM fun (key, x) => do return (key, ← item x)
    return Keyed.ofList entries
  | x => refuse "a map" x

/-- A value, or none where the value is null. -/
def orNull (item : Decoder α) : Decoder (Option α)
  | .null => .ok none
  | x => (item x).map some

end Decoder

/-- What the fields of a record make of an object: the faults of its entries with their
keys, the required fields that are missing, and the record if neither occurs. -/
structure Gathered (α : Type) where
  faults : List (String × ShapeFault)
  missing : List String
  value : Option α

/-- The fields of a record in their order, or what is made of them. -/
structure Fields (α : Type) where
  count : Nat
  /-- Looks the fields up in an object. -/
  ofObject : Keyed Json → Gathered α
  /-- Takes the fields from the front of the list that is left, the first of them at the
  given place; `expected` speaks of the whole record. -/
  ofItems : (expected : String) → (place : Nat) → List Json → Except ShapeFault (α × List Json)

namespace Fields

variable {α β : Type}

/-- No field. -/
def none (a : α) : Fields α where
  count := 0
  ofObject _ := ⟨[], [], some a⟩
  ofItems _ _ items := .ok (a, items)

/-- The fields of one part, then those of another. -/
def seq (f : Fields (α → β)) (x : Unit → Fields α) : Fields β where
  count := f.count + (x ()).count
  ofObject fields :=
    let a := f.ofObject fields
    let b := (x ()).ofObject fields
    ⟨a.faults ++ b.faults, a.missing ++ b.missing, a.value.bind fun g => b.value.map g⟩
  ofItems expected place items := do
    let (g, items) ← f.ofItems expected place items
    let (a, items) ← (x ()).ofItems expected (place + f.count) items
    return (g a, items)

instance : Applicative Fields where
  pure := none
  seq := seq

/-- A field, with the value that it has where it is missing, if it may be. -/
def field (name : String) (decode : Decoder α) (absent : Option α) : Fields α where
  count := 1
  ofObject fields :=
    match Keyed.find? name fields with
    | some x =>
      match decode x with
      | .ok a => ⟨[], [], some a⟩
      | .error fault => ⟨[(name, fault)], [], Option.none⟩
    | Option.none =>
      match absent with
      | some a => ⟨[], [], some a⟩
      | Option.none => ⟨[], [name], Option.none⟩
  ofItems expected place
    | x :: rest => (decode x).map (·, rest)
    | [] =>
      match absent with
      | some a => .ok (a, [])
      | Option.none => .error (.wrongLength place expected)

/-- A field that may not be missing. -/
def required (name : String) (decode : Decoder α) : Fields α := field name decode Option.none

/-- A field with a default. -/
def optional (name : String) (decode : Decoder α) (absent : α) : Fields α :=
  field name decode (some absent)

end Fields

/-- The fault whose key comes first. -/
def firstFault? : List (String × ShapeFault) → Option (String × ShapeFault)
  | [] => none
  | entry :: rest =>
    match firstFault? rest with
    | none => some entry
    | some best => if best.1 < entry.1 then some best else some entry

/-- A record with its fields. -/
def Decoder.record {α : Type} (name : String) (fields : Fields α) : Decoder α
  | .object entries =>
    let gathered := fields.ofObject entries
    match firstFault? gathered.faults, gathered.missing, gathered.value with
    | some (_, fault), _, _ => .error fault
    | none, field :: _, _ => .error (.missingField field)
    | none, [], some a => .ok a
    | none, [], none => .error (.wrongType .map (recordText name))
  | .array items => do
    let (a, rest) ← fields.ofItems (recordListText name fields.count) 0 items
    if rest.isEmpty then return a
    else .error (.wrongLength items.length "fewer elements in array")
  | x => Decoder.refuse (recordText name) x

end VmDeploy.Json
