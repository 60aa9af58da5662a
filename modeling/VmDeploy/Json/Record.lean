import VmDeploy.Json.Skip

/-!
# Records read straight from text

A record may be spelled as an object or, its fields in their order, as a list.
It is read from left to right, and each field is checked as it is met, so of
two faults the one further left is reported, be it one of the text or one of
the shape. Keys that belong to no field are passed over. A field may not occur
twice; one that is missing may be left at its default if it is not required.
-/

set_option autoImplicit false

namespace VmDeploy.Json.Reader

/-- Ends with a fault of the shape. -/
def refuse {α : Type} (fault : ShapeFault) : Reader α := throw (.shape fault)

/-- Reads a value that `accept` takes and that is no list and no object. -/
def scalarOf {α : Type} (expected : String) (accept : Json → Option α) : Reader α := do
  match ← scalar? with
  | some x =>
    match accept x with
    | some a => return a
    | none => refuse (.wrongType (.of x) expected)
  | none =>
    let found := if (← peek) = some '[' then Found.sequence else Found.map
    refuse (.wrongType found expected)

/-- Reads a string. -/
def text : Reader String :=
  scalarOf "a string" fun
    | .string s => some s
    | _ => none

/-- Reads a truth value. -/
def flag : Reader Bool :=
  scalarOf "a boolean" fun
    | .bool b => some b
    | _ => none

/-- Reads a value or the word for none. -/
def orNull {α : Type} (reader : Reader α) : Reader (Option α) := do
  match ← peekToken with
  | some 'n' => skip; word ['u', 'l', 'l']; return none
  | _ => return some (← reader)

/-- Reads an object whose keys are free. -/
def object : Reader (Keyed Json) := do
  match ← scalar? with
  | some x => refuse (.wrongType (.of x) "a map")
  | none =>
    let fuel := (← get).length + 1
    if (← next) = some '[' then refuse (.wrongType .sequence "a map")
    else
      let xs ← entries (value (maxLevels - 1)) fuel true
      objectEnd
      return Keyed.ofList xs

/-- One field of a record that is gathered in a `σ`. -/
structure Slot (σ : Type) where
  name : String
  required : Bool
  /-- Whether the field was read. -/
  isSet : σ → Bool
  /-- Reads the field, inside which `levels` lists and objects may be opened. -/
  read : (levels : Nat) → σ → Reader σ

variable {σ : Type}

/-- The entries of a record that is spelled as an object. -/
def slotsByKey (slots : List (Slot σ)) (levels : Nat) :
    (fuel : Nat) → (first : Bool) → σ → Reader σ
  | 0, _, _ => fail .endInObject
  | fuel + 1, first, gathered => do
    if ← moreKeys first then
      skip
      let name ← string
      match slots.find? (·.name = name) with
      | none =>
        colon
        ignore
        slotsByKey slots levels fuel false gathered
      | some slot =>
        if slot.isSet gathered then refuse (.duplicateField name)
        else
          colon
          let gathered ← slot.read levels gathered
          slotsByKey slots levels fuel false gathered
    else
      match slots.find? fun slot => slot.required && !slot.isSet gathered with
      | some slot => refuse (.missingField slot.name)
      | none => return gathered

/-- The items of a record that is spelled as a list. -/
def slotsInOrder (expected : String) (levels : Nat) :
    (slots : List (Slot σ)) → (index : Nat) → σ → Reader σ
  | [], _, gathered => return gathered
  | slot :: rest, index, gathered => do
    if ← moreItems (index = 0) then
      let gathered ← slot.read levels gathered
      slotsInOrder expected levels rest (index + 1) gathered
    else if slot.required then refuse (.wrongLength index expected)
    else slotsInOrder expected levels rest index gathered

/-- Reads a record. -/
def record (name : String) (slots : List (Slot σ)) (start : σ) : (levels : Nat) → Reader σ
  | levels => do
    match ← scalar? with
    | some x => refuse (.wrongType (.of x) (recordText name))
    | none =>
      match levels with
      | 0 => fail .tooDeep
      | levels + 1 =>
        let fuel := (← get).length + 1
        if (← next) = some '[' then
          let gathered ← slotsInOrder (recordListText name slots.length) levels slots 0 start
          listEnd
          return gathered
        else
          let gathered ← slotsByKey slots levels fuel true start
          objectEnd
          return gathered

end VmDeploy.Json.Reader
