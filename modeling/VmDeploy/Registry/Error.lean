/-!
# Registry errors

The registry refuses what its tables do not allow, does not find what it is
asked for, or holds a row that is no record.
-/

set_option autoImplicit false

namespace VmDeploy

/-- What the tables of the registry do not allow. -/
inductive StorageError where
  /-- A row with this primary key is there already. -/
  | repeatedKey (column : String)
  /-- Another value that has to be unique is there already. -/
  | notUnique (column : String)
  /-- A column holds a value of the wrong type. -/
  | wrongType (type : String) (index : Nat) (column : String)
  deriving DecidableEq, Repr

namespace StorageError

/-- The wording of an error. -/
def message : StorageError → String
  | .repeatedKey column | .notUnique column => s!"UNIQUE constraint failed: {column}"
  | .wrongType type index column =>
    s!"Invalid column type {type} at index: {index}, name: {column}"

/-- What the storage adds to its wording, which tells a primary key from other constraints. -/
def details : StorageError → List String
  | .repeatedKey _ => ["Error code 1555: A PRIMARY KEY constraint failed"]
  | .notUnique _ => ["Error code 2067: A UNIQUE constraint failed"]
  | .wrongType .. => []

end StorageError

/-- Why a call of the registry failed. -/
inductive RegistryError where
  | storage (error : StorageError)
  | notFound (id : String)
  | invalid (reason : String)
  deriving DecidableEq, Repr

namespace RegistryError

/-- The wording of an error. -/
def message : RegistryError → String
  | .storage error => s!"SQLite error: {error.message}"
  | .notFound id => s!"Disk record not found: {id}"
  | .invalid reason => s!"Invalid disk record: {reason}"

/-- What the storage says of an error, in its own words. -/
def details : RegistryError → List String
  | .storage error => error.message :: error.details
  | .notFound _ | .invalid _ => []

end RegistryError

end VmDeploy
