import VmDeploy.Disk.Record
import VmDeploy.Registry.Error

/-!
# Requests to the registry
-/

set_option autoImplicit false

namespace VmDeploy

/-- What the registry can be asked to do. -/
inductive RegistryRequest where
  /-- Records a disk that was made; it does not become the current one. -/
  | save (cid : DiskCid) (size : UInt64) (properties : CloudProperties)
  /-- All records, the oldest first. -/
  | all
  | find (cid : DiskCid)
  | findCurrent
  /-- Makes a recorded disk the current one. -/
  | updateCurrent (id : RecordId)
  /-- Removes a record. -/
  | delete (id : RecordId)
  deriving Repr

namespace RegistryRequest

/-- What the registry answers a request with when nothing fails. -/
def Value : RegistryRequest → Type
  | .save _ _ _ => DiskRecord
  | .all => List DiskRecord
  | .find _ | .findCurrent => Option DiskRecord
  | .updateCurrent _ | .delete _ => Unit

/-- What the registry answers a request with. -/
abbrev Answer (r : RegistryRequest) : Type := Except RegistryError r.Value

/-- The name of what is asked for. -/
def method : RegistryRequest → String
  | .save _ _ _ => "save"
  | .all => "all"
  | .find _ => "find"
  | .findCurrent => "find_current"
  | .updateCurrent _ => "update_current"
  | .delete _ => "delete"

end RegistryRequest

end VmDeploy
