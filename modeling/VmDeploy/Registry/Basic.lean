import VmDeploy.Json.Compact
import VmDeploy.Json.Record
import VmDeploy.Registry.Cell
import VmDeploy.Registry.Request

/-!
# The disk registry

A table of disk records and a pointer to the current one. Identifiers and
names are unique. The rows stand in the order in which they were saved; a
listing sorts them by the stored time of making, and rows of one time stay in
that order.

A row is kept in cells and only read as a record when it is asked for, so a
registry that was written by somebody else may hold rows that are no records.
In a listing, a cell of the wrong type in any row is reported before any row
is read further.

The pointer names a row by the text of its identifier. It may name no row. A
row that somebody else wrote may lack an identifier; nothing leads to it then
but a listing and its name.

The operations are those of the deployer's `DiskRepo` as its SQLite repository
does them: the table is `disks`, and the pointer is the `current_disk_id` of
the one row of `deployment_state`.
-/

set_option autoImplicit false

namespace VmDeploy

/-- A row of the table of disks. -/
structure DiskRow where
  id : Option String
  cid : String
  size : Cell
  properties : String
  /-- In milliseconds behind the start of 1970. -/
  createdAt : Cell
  deriving DecidableEq, Repr

/-- The cells of a row, all of them of the right type. -/
structure DiskRow.Typed where
  id : String
  cid : String
  size : Int
  properties : String
  createdAt : Int

namespace DiskRow

/-- A row from the cells that somebody puts into a table. -/
def ofCells (id cid size properties createdAt : Cell) : DiskRow where
  id := id.inTextColumn
  cid := cid.inTextColumn.getD ""
  size := size.inNumberColumn
  properties := properties.inTextColumn.getD ""
  createdAt := createdAt.inNumberColumn

/-- A cell of a column of whole numbers. -/
def integerCell (index : Nat) (column : String) : Cell → Except RegistryError Int
  | .integer n => .ok n
  | cell => .error (.storage (.wrongType cell.typeName index column))

/-- Looks whether all cells are of the right type. -/
def typed (row : DiskRow) : Except RegistryError Typed := do
  let some id := row.id | throw (.storage (.wrongType Cell.empty.typeName 0 "id"))
  let size ← integerCell 2 "size" row.size
  let createdAt ← integerCell 4 "created_at" row.createdAt
  return ⟨id, row.cid, size, row.properties, createdAt⟩

/-- Reads a row as a record. -/
def Typed.record (row : Typed) : Except RegistryError DiskRecord := do
  let id ← (RecordId.parse row.id).mapError fun e => .invalid s!"{row.id}: {e.message}"
  let cid ← (CloudId.parse row.cid).mapError fun e => .invalid e.message
  if row.size < 0 then throw (.invalid s!"negative size {row.size}")
  let properties ← (Json.Reader.object.run (Text.Utf8.encode row.properties)).mapError
    fun e => .invalid s!"cloud properties: {e.message}"
  match Timestamp.ofMillis? row.createdAt with
  | none => throw (.invalid s!"timestamp {row.createdAt}")
  | some createdAt => return ⟨id, cid, UInt64.ofNat row.size.toNat, properties, createdAt⟩

/-- Reads a row as a record, cells first. -/
def record (row : DiskRow) : Except RegistryError DiskRecord := row.typed >>= Typed.record

end DiskRow

/-- What is known of the disks of a deployment. -/
structure Registry where
  rows : List DiskRow := []
  current : Option String := none
  deriving DecidableEq, Repr, Inhabited

namespace Registry

/-- The rows by their stored time of making. -/
def sortedRows (r : Registry) : List DiskRow :=
  r.rows.mergeSort fun a b => a.createdAt.le b.createdAt

/-- All records, the oldest first. -/
def all (r : Registry) : Except RegistryError (List DiskRecord) := do
  let typed ← r.sortedRows.mapM DiskRow.typed
  typed.mapM DiskRow.Typed.record

/-- The record of a disk. -/
def find (r : Registry) (cid : DiskCid) : Except RegistryError (Option DiskRecord) :=
  match r.rows.find? (·.cid = cid.text) with
  | none => .ok none
  | some row => row.record.map some

/-- The row that the pointer names. -/
def currentRow? (r : Registry) : Option DiskRow :=
  r.current.bind fun id => r.rows.find? (·.id = some id)

/-- The record of the current disk. -/
def findCurrent (r : Registry) : Except RegistryError (Option DiskRecord) :=
  match r.currentRow? with
  | none => .ok none
  | some row => row.record.map some

/-- The row of a record. -/
def rowOf (record : DiskRecord) : DiskRow where
  id := some record.id.text
  cid := record.cid.text
  size := .integer record.size.toNat
  properties := (Json.object record.cloudProperties).compact
  createdAt := .integer record.createdAt.toMillis

/-- Records a disk under a fresh identifier. -/
def save (r : Registry) (id : RecordId) (now : Timestamp) (cid : DiskCid) (size : UInt64)
    (properties : CloudProperties) : Except RegistryError (DiskRecord × Registry) :=
  if Cell.maxInteger < size.toNat then .error (.invalid s!"size {size} too large")
  else if r.rows.any (·.id = some id.text) then .error (.storage (.repeatedKey "disks.id"))
  else if r.rows.any (·.cid = cid.text) then .error (.storage (.notUnique "disks.cid"))
  else
    let record : DiskRecord := ⟨id, cid, size, properties, now⟩
    .ok (record, { r with rows := r.rows ++ [rowOf record] })

/-- Makes a recorded disk the current one. -/
def updateCurrent (r : Registry) (id : RecordId) : Except RegistryError Registry :=
  if r.rows.any (·.id = some id.text) then .ok { r with current := some id.text }
  else .error (.notFound id.text)

/-- Removes a record. The pointer to it goes too. -/
def delete (r : Registry) (id : RecordId) : Registry where
  rows := r.rows.filter (·.id ≠ some id.text)
  current := if r.current = some id.text then none else r.current

/-- Opening the registry again changes nothing of what it holds. -/
def reopen (r : Registry) : Registry := r

/-- Answers a request. What is fresh about a record that is saved is given. -/
def answer (id : RecordId) (now : Timestamp) (r : Registry) :
    (request : RegistryRequest) → request.Answer × Registry
  | .save cid size properties =>
    match r.save id now cid size properties with
    | .ok (record, r) => (.ok record, r)
    | .error e => (.error e, r)
  | .all => (r.all, r)
  | .find cid => (r.find cid, r)
  | .findCurrent => (r.findCurrent, r)
  | .updateCurrent id =>
    match r.updateCurrent id with
    | .ok r => (.ok (), r)
    | .error e => (.error e, r)
  | .delete id => (.ok (), r.delete id)

end Registry

end VmDeploy
