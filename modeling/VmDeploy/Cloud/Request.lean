import VmDeploy.Cloud.Error
import VmDeploy.Id.Cloud
import VmDeploy.Manifest.Basic

/-!
# Requests to the cloud
-/

set_option autoImplicit false

namespace VmDeploy

/-- What the cloud can be asked to do. -/
inductive CloudRequest where
  | hasVm (vm : VmCid)
  | deleteVm (vm : VmCid)
  /-- A disk of so many megabytes near a VM. -/
  | createDisk (size : UInt64) (properties : CloudProperties) (vm : VmCid)
  | attachDisk (vm : VmCid) (disk : DiskCid)
  | detachDisk (vm : VmCid) (disk : DiskCid)
  | deleteDisk (disk : DiskCid)
  | deleteStemcell (stemcell : StemcellCid)
  deriving Repr

namespace CloudRequest

/-- What the cloud answers a request with when nothing fails. -/
def Value : CloudRequest → Type
  | .hasVm _ => Bool
  | .createDisk _ _ _ => DiskCid
  | .deleteVm _ | .attachDisk _ _ | .detachDisk _ _ | .deleteDisk _ | .deleteStemcell _ => Unit

/-- What the cloud answers a request with. -/
abbrev Answer (r : CloudRequest) : Type := Except CloudError r.Value

/-- The name of what is asked for. -/
def method : CloudRequest → String
  | .hasVm _ => "has_vm"
  | .deleteVm _ => "delete_vm"
  | .createDisk _ _ _ => "create_disk"
  | .attachDisk _ _ => "attach_disk"
  | .detachDisk _ _ => "detach_disk"
  | .deleteDisk _ => "delete_disk"
  | .deleteStemcell _ => "delete_stemcell"

/-- The arguments of a request. -/
def arguments : CloudRequest → List Json
  | .hasVm vm | .deleteVm vm => [.string vm.text]
  | .createDisk size properties vm =>
    [.ofNat size.toNat, .object properties, .string vm.text]
  | .attachDisk vm disk | .detachDisk vm disk => [.string vm.text, .string disk.text]
  | .deleteDisk disk => [.string disk.text]
  | .deleteStemcell stemcell => [.string stemcell.text]

end CloudRequest

end VmDeploy
