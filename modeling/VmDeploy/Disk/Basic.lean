import VmDeploy.Disk.Record
import VmDeploy.Json.Diagnostic

/-!
# Disks

A handle on a disk is what the registry knows of it, taken at some time. A
disk that the cloud or an agent names and the registry does not know has a
handle too; its record is made up, and it is not tracked.
-/

set_option autoImplicit false

namespace VmDeploy

/-- A handle on a persistent disk. -/
structure Disk where
  record : DiskRecord
  /-- Whether the registry has the record. -/
  tracked : Bool
  deriving Repr

namespace Disk

/-- The name of the disk. -/
def cid (d : Disk) : DiskCid := d.record.cid

/-- The handle of a record of the registry. -/
def ofRecord (r : DiskRecord) : Disk := ⟨r, true⟩

/-- The handle of a disk without a record. -/
def untracked (cid : DiskCid) (id : RecordId) (now : Timestamp) : Disk :=
  ⟨⟨id, cid, 0, [], now⟩, false⟩

/-- Whether the disk is not as it should be: it has another size or other properties. -/
def needsMigration (d : Disk) (size : UInt64) (properties : CloudProperties) : Bool :=
  d.record.size ≠ size || !Json.sameFields d.record.cloudProperties properties

/-- The diagnostic text of a disk, with the given texts for its identifier and its time of
making. -/
def diagnostic (d : Disk) (id createdAt : String) : String :=
  "Disk \x7b record: DiskRecord \x7b id: " ++ id
    ++ ", cid: DiskCid(" ++ Text.Quoted.quote d.cid.text
    ++ "), size: " ++ toString d.record.size.toNat
    ++ ", cloud_properties: " ++ Json.diagnosticMap d.record.cloudProperties
    ++ ", created_at: " ++ createdAt
    ++ " \x7d, tracked: " ++ (if d.tracked then "true" else "false") ++ ", .. \x7d"

/-- A disk of the given size and properties stays. -/
theorem needsMigration_self (d : Disk) :
    d.needsMigration d.record.size d.record.cloudProperties = false := by
  simp [needsMigration, Json.sameFields_refl]

end Disk

end VmDeploy
