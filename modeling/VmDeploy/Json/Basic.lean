import VmDeploy.Keyed
import VmDeploy.Number.Binary64

/-!
# JSON values

Values as they are exchanged with cloud, agent and registry. Whole numbers and
floating-point numbers are told apart, also where they have the same value.

The entries of an object are kept in ascending order of their keys, one entry
for each key. `Json.normalize` brings a value built in another way into this
form.
-/

set_option autoImplicit false

namespace VmDeploy

/-- A JSON number: a whole number of at most sixty-four bits, or a binary64 number. -/
inductive JsonNumber where
  | integer (value : Int)
  | double (value : Binary64)
  deriving DecidableEq, Repr

/-- A JSON value. -/
inductive Json where
  | null
  | bool (value : Bool)
  | number (value : JsonNumber)
  | string (value : String)
  | array (items : List Json)
  | object (fields : List (String × Json))
  deriving Repr

instance : Inhabited Json := ⟨.null⟩

/-- The entries of a JSON object. -/
abbrev JsonFields := Keyed Json

namespace Json

/-- An object with the given entries; of two entries with one key the later counts. -/
def ofEntries (entries : List (String × Json)) : Json := .object (Keyed.ofList entries)

/-- A whole number as a value. -/
def ofNat (n : Nat) : Json := .number (.integer n)

/-- An array of what the items of a list are written as. -/
def ofList {α : Type} (encode : α → Json) (items : List α) : Json := .array (items.map encode)

/-- What a value is written as, null where there is none. -/
def ofOption {α : Type} (encode : α → Json) : Option α → Json
  | some a => encode a
  | none => .null

/-- The value of a key, if the value is an object that has it. -/
def field? (key : String) : Json → Option Json
  | .object fields => Keyed.find? key fields
  | _ => none

mutual

/-- The value with the entries of every object in ascending order of keys, the last
entry of each key alone. -/
def normalize : Json → Json
  | .array items => .array (normalizeItems items)
  | .object fields => .object (Keyed.ofList (normalizeFields fields))
  | scalar => scalar

/-- Normalizes the items of an array. -/
def normalizeItems : List Json → List Json
  | [] => []
  | x :: rest => normalize x :: normalizeItems rest

/-- Normalizes the values of an object. -/
def normalizeFields : List (String × Json) → List (String × Json)
  | [] => []
  | (key, x) :: rest => (key, normalize x) :: normalizeFields rest

end

end Json

/-- Equality of numbers: of one kind, and the two floating-point zeros are equal. -/
def JsonNumber.same : JsonNumber → JsonNumber → Bool
  | .integer a, .integer b => a = b
  | .double a, .double b => a.sameValue b
  | _, _ => false

namespace Json

mutual

/-- Equality of values in normal form: that of their numbers, texts and entries. -/
def same : Json → Json → Bool
  | .null, .null => true
  | .bool a, .bool b => a = b
  | .number a, .number b => a.same b
  | .string a, .string b => a = b
  | .array a, .array b => sameItems a b
  | .object a, .object b => sameFields a b
  | _, _ => false

/-- Equality of arrays, item by item. -/
def sameItems : List Json → List Json → Bool
  | [], [] => true
  | x :: xs, y :: ys => same x y && sameItems xs ys
  | _, _ => false

/-- Equality of objects, entry by entry. -/
def sameFields : List (String × Json) → List (String × Json) → Bool
  | [], [] => true
  | (j, x) :: xs, (k, y) :: ys => j = k && same x y && sameFields xs ys
  | _, _ => false

end

mutual

/-- Every value equals itself. -/
theorem same_refl : ∀ x : Json, same x x = true
  | .null => rfl
  | .bool _ => by simp [same]
  | .number n => by
    cases n <;> simp [same, JsonNumber.same, Binary64.sameValue_refl]
  | .string _ => by simp [same]
  | .array items => by simpa [same] using sameItems_refl items
  | .object fields => by simpa [same] using sameFields_refl fields

/-- Every array equals itself. -/
theorem sameItems_refl : ∀ xs : List Json, sameItems xs xs = true
  | [] => rfl
  | x :: xs => by simp [sameItems, same_refl x, sameItems_refl xs]

/-- Every object equals itself. -/
theorem sameFields_refl : ∀ xs : List (String × Json), sameFields xs xs = true
  | [] => rfl
  | (_, x) :: xs => by simp [sameFields, same_refl x, sameFields_refl xs]

end

end Json

end VmDeploy
