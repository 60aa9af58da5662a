import VmDeploy.Services

/-!
# The inventory of disks

Disks are made, found and deleted here, and the registry is kept in step with
the cloud. A disk whose record cannot be saved is deleted again, so that no
disk is left that nobody knows of.

A disk that the cloud no longer has is forgotten as well when it is deleted;
the error of the cloud is still told, and a deletion step takes it for "already
done".

The operations are those of the deployer's `DiskManager`, and of `Disk`, its
handle of one disk.
-/

set_option autoImplicit false

namespace VmDeploy

namespace Disk

/-- Removes the record of a tracked disk. -/
def forget (d : Disk) : Action Unit :=
  if d.tracked then Action.registry (.delete d.record.id) else pure ()

/-- Deletes a disk in the cloud and forgets it. -/
def delete (d : Disk) : Action Unit := do
  match ← ExceptT.lift (Services.cloud (.deleteDisk d.cid)) with
  | .ok () => d.forget
  | .error e =>
    if e.is .diskNotFound then
      Action.warn "Disk already gone from the cloud" none
      d.forget
    throw (.cloud e)

end Disk

namespace Inventory

/-- The current disk, if there is one. -/
def findCurrent : Action (Option Disk) := do
  let record ← Action.inContext "Reading disk record" (Action.registry .findCurrent)
  return Option.map Disk.ofRecord record

/-- The disk of a name, if it is recorded. -/
def findByCid (cid : DiskCid) : Action (Option Disk) := do
  let record ← Action.inContext s!"Finding disk record for '{cid.text}'"
    (Action.registry (.find cid))
  return Option.map Disk.ofRecord record

/-- The disk of a name, recorded or not. -/
def diskForCid (cid : DiskCid) : Action Disk := do
  match ← findByCid cid with
  | some disk => return disk
  | none =>
    Action.warn "Disk has no registry record" none
    let (id, now) ← ExceptT.lift Services.freshRecord
    return Disk.untracked cid id now

/-- What is being done when a disk is made. -/
def creationText (pool : DiskPool) (vm : VmCid) : String :=
  "Creating disk with size " ++ toString pool.diskSize.toNat
    ++ ", cloudProperties " ++ Json.diagnosticMap pool.cloudProperties
    ++ ", instanceID " ++ vm.text

/-- Makes a disk for a pool near a VM and records it. It does not become the current
one. -/
def create (pool : DiskPool) (vm : VmCid) : Action Disk := do
  let cid ← Action.inContext (creationText pool vm)
    (Action.cloud (.createDisk pool.diskSize pool.cloudProperties vm))
  match ← ExceptT.lift (Services.registry (.save cid pool.diskSize pool.cloudProperties)) with
  | .ok record => return Disk.ofRecord record
  | .error saveError =>
    match ← ExceptT.lift (Services.cloud (.deleteDisk cid)) with
    | .ok () => pure ()
    | .error deleteError =>
      Action.warn "Failed to delete disk after its record could not be saved"
        (some deleteError.message)
    throw (.context "Saving deployment disk record" (.registry saveError))

/-- Makes a disk the current one. -/
def setCurrent (disk : Disk) : Action Unit :=
  Action.inContext s!"Marking disk '{disk.cid.text}' as current"
    (Action.registry (.updateCurrent disk.record.id))

/-- The recorded disks other than the current one, the oldest first. -/
def findUnused : Action (List Disk) := do
  let records : List DiskRecord ←
    Action.inContext "Getting all disk records" (Action.registry .all)
  let current : Option DiskRecord ←
    Action.inContext "Finding current disk record" (Action.registry .findCurrent)
  let unused := records.filter fun r => current.all fun c => c.id ≠ r.id
  return unused.map Disk.ofRecord

/-- Deletes an unused disk as a step. -/
def deleteUnusedDisk (disk : Disk) : Action Unit :=
  Action.deletionStep s!"Deleting unused disk '{disk.cid.text}'" .diskNotFound disk.delete

/-- Deletes all disks but the current one, up to the first that cannot be deleted. -/
def deleteUnused : Action Unit := do
  let disks ← Action.inContext "Finding unused disks" findUnused
  disks.forM deleteUnusedDisk

end Inventory

end VmDeploy
