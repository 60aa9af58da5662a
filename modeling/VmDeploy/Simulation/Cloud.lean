import VmDeploy.Cloud.Request

/-!
# A cloud that makes nothing

It numbers the disks that it makes, and refuses what it was told to refuse:
all calls of a method, or all uses of a disk.
-/

set_option autoImplicit false

namespace VmDeploy.Simulation

/-- The error with which a simulated cloud refuses a call. -/
def refusal (method : String) (type : CloudErrorType) : CloudError :=
  .rejected method type s!"fake-{method}-error" false

/-- A simulated cloud. -/
structure Cloud where
  /-- How many calls reached it. -/
  calls : Nat := 0
  methodFaults : Keyed CloudErrorType := []
  diskFaults : Keyed CloudErrorType := []
  vmMissing : Bool := false
  /-- The disks that were made, deleted or not. -/
  created : List DiskCid := []

namespace Cloud

/-- The name of a disk by its number. -/
def diskCid (n : Nat) : DiskCid :=
  ⟨"fake-disk-cid-" ++ toString n, by simp [String.append_eq_empty_iff]⟩

/-- The name of the disk that is made next. -/
def nextDisk (c : Cloud) : DiskCid := diskCid (c.created.length + 1)

/-- Tells it to refuse a method. -/
def refuseMethod (method : String) (type : CloudErrorType) (c : Cloud) : Cloud :=
  { c with methodFaults := Keyed.insert method type c.methodFaults }

/-- Tells it to refuse all uses of a disk. -/
def refuseDisk (disk : String) (type : CloudErrorType) (c : Cloud) : Cloud :=
  { c with diskFaults := Keyed.insert disk type c.diskFaults }

/-- Refuses a call of a method if it was told to. -/
def checkMethod (c : Cloud) (method : String) : Except CloudError Unit :=
  match Keyed.find? method c.methodFaults with
  | some type => .error (refusal method type)
  | none => .ok ()

/-- Refuses the use of a disk if it was told to. -/
def checkDisk (c : Cloud) (method : String) (disk : DiskCid) : Except CloudError Unit :=
  match Keyed.find? disk.text c.diskFaults with
  | some type => .error (refusal method type)
  | none => .ok ()

/-- Makes a disk. -/
def createDisk (c : Cloud) : DiskCid × Cloud :=
  (c.nextDisk, { c with created := c.created ++ [c.nextDisk] })

/-- Answers a request. -/
def answer (request : CloudRequest) (c : Cloud) : request.Answer × Cloud :=
  let c := { c with calls := c.calls + 1 }
  let method := request.method
  match c.checkMethod method with
  | .error e => (.error e, c)
  | .ok () =>
    match request with
    | .hasVm _ => (.ok !c.vmMissing, c)
    | .createDisk _ _ _ =>
      let (cid, c) := c.createDisk
      (.ok cid, c)
    | .attachDisk _ disk | .detachDisk _ disk | .deleteDisk disk => (c.checkDisk method disk, c)
    | .deleteVm _ | .deleteStemcell _ => (.ok (), c)

end Cloud

end VmDeploy.Simulation
