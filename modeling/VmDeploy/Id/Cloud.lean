import VmDeploy.Id.Error

/-!
# Cloud identifiers

The cloud names what it makes. Such a name is any text that is not empty; the
type says what it names.
-/

set_option autoImplicit false

namespace VmDeploy

/-- What the cloud makes. -/
inductive Resource where
  | vm
  | disk
  | stemcell
  deriving DecidableEq, Repr

/-- The name that the cloud gave to a resource of a kind. -/
structure CloudId (kind : Resource) where
  text : String
  nonempty : text ≠ ""
  deriving DecidableEq

/-- The name of a virtual machine. -/
abbrev VmCid := CloudId .vm

/-- The name of a persistent disk. -/
abbrev DiskCid := CloudId .disk

/-- The name of a machine image. -/
abbrev StemcellCid := CloudId .stemcell

namespace CloudId

variable {kind : Resource}

instance : Repr (CloudId kind) where
  reprPrec id _ := repr id.text

/-- Takes a text as a name. -/
def parse (s : String) : Except IdError (CloudId kind) :=
  if h : s = "" then .error .empty else .ok ⟨s, h⟩

instance : LT (CloudId kind) := ⟨fun a b => a.text < b.text⟩

instance (a b : CloudId kind) : Decidable (a < b) := inferInstanceAs (Decidable (a.text < b.text))

/-- Names in ascending order of their texts, by the numbers of the characters. -/
def sort (ids : List (CloudId kind)) : List (CloudId kind) := ids.mergeSort fun a b => ¬ b < a

/-- A name is read back from its text. -/
@[simp] theorem parse_text (id : CloudId kind) : parse id.text = .ok id := by
  simp [parse, id.nonempty]

/-- Only the empty text is refused. -/
theorem parse_eq_error_iff {s : String} {e : IdError} :
    (parse s : Except IdError (CloudId kind)) = .error e ↔ s = "" ∧ e = .empty := by
  by_cases h : s = "" <;> simp [parse, h, eq_comm]

end CloudId

end VmDeploy
