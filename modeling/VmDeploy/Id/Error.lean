/-!
# Why a text is no identifier
-/

set_option autoImplicit false

namespace VmDeploy

/-- Why the number in a record identifier cannot be read. -/
inductive UlidFault where
  | length
  | character
  deriving DecidableEq, Repr

/-- The wording of a fault of the number. -/
def UlidFault.message : UlidFault → String
  | .length => "invalid length"
  | .character => "invalid character"

/-- Why a text is no identifier. -/
inductive IdError where
  | empty
  | missingSeparator
  /-- The text before the separator is not the prefix of the type. -/
  | wrongPrefix (expected actual : String)
  | invalidUlid (fault : UlidFault)
  deriving DecidableEq, Repr

namespace IdError

/-- The wording of an error. -/
def message : IdError → String
  | .empty => "ID cannot be empty"
  | .missingSeparator => "ID missing underscore separator"
  | .wrongPrefix expected actual =>
    s!"invalid ID prefix: expected '{expected}', got '{actual}'"
  | .invalidUlid fault => s!"invalid ULID: {fault.message}"

/-- Whether there was no text at all. -/
def isEmpty : IdError → Bool
  | .empty => true
  | _ => false

/-- Whether the identifier belongs to another type. -/
def isWrongPrefix : IdError → Bool
  | .wrongPrefix _ _ => true
  | _ => false

end IdError

end VmDeploy
