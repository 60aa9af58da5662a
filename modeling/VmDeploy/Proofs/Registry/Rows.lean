import VmDeploy.Proofs.Id.Text
import VmDeploy.Proofs.Result
import VmDeploy.Registry.Basic

/-!
# Rows of the registry

What a row holds if it reads as a record, and what each request does to the rows. A
record that is read names the disk of its row, and it has the identifier of its row where
the registry wrote the row itself; so what is removed for a record is its row.

A record that was written is read back as it was but for its time, of which a row keeps the
milliseconds (`record_rowOf`). Its properties go through their JSON text.
-/

set_option autoImplicit false

namespace VmDeploy

open Result (bind_eq_ok mapError_eq_ok map_eq_ok mem_of_mapM_eq_ok)

namespace DiskRow

/-- What a row holds that reads as a record. -/
structure Holds (row : DiskRow) (record : DiskRecord) : Prop where
  id : ∃ text, row.id = some text ∧ RecordId.parse text = .ok record.id
  cid : row.cid = record.cid.text
  size : ∃ n : Int, row.size = .integer n ∧ 0 ≤ n ∧ record.size = UInt64.ofNat n.toNat
  properties :
    Json.Reader.object.run (Text.Utf8.encode row.properties) = .ok record.cloudProperties
  createdAt : ∃ n, row.createdAt = .integer n ∧ Timestamp.ofMillis? n = some record.createdAt

theorem integerCell_eq_ok {index : Nat} {column : String} {cell : Cell} {n : Int} :
    integerCell index column cell = .ok n ↔ cell = .integer n := by
  cases cell <;> simp [integerCell]

theorem eq_of_typed {row : DiskRow} {typed : Typed} (read : row.typed = .ok typed) :
    row = ⟨some typed.id, typed.cid, .integer typed.size, typed.properties,
      .integer typed.createdAt⟩ := by
  obtain ⟨id, cid, size, properties, createdAt⟩ := row
  unfold DiskRow.typed at read
  cases id with
  | none => cases read
  | some id =>
    dsimp only at read
    obtain ⟨n, hsize, read⟩ := bind_eq_ok.mp read
    obtain ⟨time, htime, read⟩ := bind_eq_ok.mp read
    cases read
    rw [integerCell_eq_ok.mp hsize, integerCell_eq_ok.mp htime]

/-- A row that reads as a record holds it. -/
theorem holds_of_record {row : DiskRow} {record : DiskRecord} (read : row.record = .ok record) :
    row.Holds record := by
  obtain ⟨typed, htyped, opened⟩ := bind_eq_ok.mp read
  have cells := eq_of_typed htyped
  unfold Typed.record at opened
  obtain ⟨id, hid, opened⟩ := bind_eq_ok.mp opened
  obtain ⟨cid, hcid, opened⟩ := bind_eq_ok.mp opened
  dsimp only at opened
  split at opened
  · obtain ⟨_, refused, _⟩ := bind_eq_ok.mp opened
    cases refused
  · rename_i positive
    obtain ⟨properties, hproperties, opened⟩ := bind_eq_ok.mp opened
    split at opened
    · cases opened
    · rename_i createdAt htime
      cases opened
      rw [cells]
      exact {
        id := ⟨_, rfl, mapError_eq_ok.mp hid⟩
        cid := (CloudId.text_of_parse (mapError_eq_ok.mp hcid)).symm
        size := ⟨_, rfl, Int.not_lt.mp positive, rfl⟩
        properties := mapError_eq_ok.mp hproperties
        createdAt := ⟨_, rfl, htime⟩ }

/-- A record that is read from a row that was written for an identifier has it. -/
theorem id_of_record {row : DiskRow} {id : RecordId} {record : DiskRecord}
    (written : row.id = some id.text) (read : row.record = .ok record) : record.id = id := by
  obtain ⟨text, here, parsed⟩ := (holds_of_record read).id
  rw [written, Option.some.injEq] at here
  rw [← here, RecordId.parse_text, Except.ok.injEq] at parsed
  exact parsed.symm

end DiskRow

/-- Whether properties are read back from their text with the values that they had. -/
def CloudProperties.readsBack (properties : CloudProperties) : Bool :=
  match Json.Reader.object.run (Text.Utf8.encode (Json.object properties).compact) with
  | .ok read => Json.sameFields read properties
  | .error _ => false

theorem CloudProperties.read_of_readsBack {properties : CloudProperties}
    (readable : properties.readsBack = true) :
    ∃ read, Json.Reader.object.run (Text.Utf8.encode (Json.object properties).compact) = .ok read ∧
      Json.sameFields read properties = true := by
  unfold CloudProperties.readsBack at readable
  split at readable
  · rename_i read here
    exact ⟨read, here, readable⟩
  · cases readable

/-- Records of one disk, with one size and the same properties. Nothing is said of their times. -/
structure DiskRecord.Matches (a b : DiskRecord) : Prop where
  id : a.id = b.id
  cid : a.cid = b.cid
  size : a.size = b.size
  properties : Json.sameFields a.cloudProperties b.cloudProperties = true

namespace Registry

variable {r : Registry}

/-- A row that was written for a record reads as what its columns can tell of the record. -/
theorem record_rowOf_eq {record : DiskRecord} {properties : CloudProperties} {createdAt : Timestamp}
    (hproperties : Json.Reader.object.run
      (Text.Utf8.encode (Json.object record.cloudProperties).compact) = .ok properties)
    (htime : Timestamp.ofMillis? record.createdAt.toMillis = some createdAt) :
    (rowOf record).record =
      .ok { record with cloudProperties := properties, createdAt := createdAt } := by
  refine bind_eq_ok.mpr ⟨⟨_, _, record.size.toNat, _, record.createdAt.toMillis⟩, rfl, ?_⟩
  have positive : ¬ (record.size.toNat : Int) < 0 := by omega
  simp [DiskRow.Typed.record, rowOf, positive, hproperties, htime, bind, Except.bind, pure,
    Except.pure]

/-- A row that was written for a record reads as one that matches it. -/
theorem record_rowOf {record : DiskRecord} (readable : record.cloudProperties.readsBack = true)
    (timely : (Timestamp.ofMillis? record.createdAt.toMillis).isSome = true) :
    ∃ read, (rowOf record).record = .ok read ∧ read.Matches record := by
  obtain ⟨properties, hproperties, same⟩ := CloudProperties.read_of_readsBack readable
  obtain ⟨createdAt, htime⟩ := Option.isSome_iff_exists.mp timely
  exact ⟨_, record_rowOf_eq hproperties htime, rfl, rfl, rfl, same⟩

/-- Records that are listed are read from rows. -/
theorem row_of_all {records : List DiskRecord} {record : DiskRecord}
    (listed : r.all = .ok records) (mem : record ∈ records) :
    ∃ row ∈ r.rows, row.record = .ok record := by
  obtain ⟨typed, htyped, opened⟩ := bind_eq_ok.mp listed
  obtain ⟨cells, hcells, read⟩ := mem_of_mapM_eq_ok opened mem
  obtain ⟨row, hrow, seen⟩ := mem_of_mapM_eq_ok htyped hcells
  refine ⟨row, List.mem_mergeSort.mp hrow, ?_⟩
  exact bind_eq_ok.mpr ⟨cells, seen, read⟩

/-- A listing reads all rows, by their stored time of making. -/
theorem forall₂_of_all {records : List DiskRecord} (listed : r.all = .ok records) :
    List.Forall₂ (fun row record => row.record = .ok record) r.sortedRows records :=
  Result.forall₂_of_mapM_mapM listed

/-- Every row is listed. -/
theorem record_of_all {records : List DiskRecord} {row : DiskRow}
    (listed : r.all = .ok records) (mem : row ∈ r.rows) :
    ∃ record ∈ records, row.record = .ok record := by
  have sorted : row ∈ r.sortedRows := List.mem_mergeSort.mpr mem
  have read := forall₂_of_all listed
  clear listed mem
  generalize r.sortedRows = rows at sorted read
  induction read with
  | nil => cases sorted
  | cons here _ ih =>
    rcases List.mem_cons.mp sorted with rfl | later
    · exact ⟨_, List.mem_cons_self, here⟩
    · obtain ⟨record, mem, read⟩ := ih later
      exact ⟨record, List.mem_cons_of_mem _ mem, read⟩

/-- A record that is found by a name is read from a row. -/
theorem row_of_find {cid : DiskCid} {record : DiskRecord}
    (found : r.find cid = .ok (some record)) : ∃ row ∈ r.rows, row.record = .ok record := by
  unfold Registry.find at found
  split at found
  · cases found
  · rename_i row here
    obtain ⟨_, read, heq⟩ := map_eq_ok.mp found
    cases heq
    exact ⟨row, List.mem_of_find?_eq_some here, read⟩

/-- The record of the current disk is read from the current row. -/
theorem findCurrent_eq_ok {current : Option DiskRecord} (found : r.findCurrent = .ok current) :
    (r.currentRow? = none ∧ current = none) ∨
      ∃ row record, r.currentRow? = some row ∧ current = some record ∧
        row.record = .ok record := by
  unfold Registry.findCurrent at found
  split at found
  · rename_i none
    cases found
    exact .inl ⟨none, rfl⟩
  · rename_i row here
    obtain ⟨record, read, heq⟩ := map_eq_ok.mp found
    exact .inr ⟨row, record, here, heq.symm, read⟩

/-- The current disk has the name that its row has. -/
theorem cid_of_findCurrent {row : DiskRow} {record : DiskRecord}
    (found : r.findCurrent = .ok (some record)) (here : r.currentRow? = some row) :
    record.cid.text = row.cid := by
  rcases findCurrent_eq_ok found with ⟨_, none⟩ | ⟨row', _, here', heq, read⟩
  · cases none
  · cases heq
    rw [here, Option.some.injEq] at here'
    rw [here']
    exact (DiskRow.holds_of_record read).cid.symm

/-- The pointer holds the identifier of the current row. -/
theorem of_currentRow? {row : DiskRow} (here : r.currentRow? = some row) :
    row ∈ r.rows ∧ r.current = row.id := by
  obtain ⟨id, hid, found⟩ := Option.bind_eq_some_iff.mp here
  refine ⟨List.mem_of_find?_eq_some found, ?_⟩
  have named := List.find?_some found
  simp only [decide_eq_true_eq] at named
  rw [hid, named]

/-- What a successful save does: a row is added at the end, and neither its identifier nor its
name was there. -/
theorem save_eq_ok {id : RecordId} {now : Timestamp} {cid : DiskCid} {size : UInt64}
    {properties : CloudProperties} {record : DiskRecord} {r' : Registry}
    (saved : r.save id now cid size properties = .ok (record, r')) :
    record = ⟨id, cid, size, properties, now⟩ ∧ r' = { r with rows := r.rows ++ [rowOf record] } ∧
      (∀ row ∈ r.rows, row.id ≠ some id.text) ∧ ∀ row ∈ r.rows, row.cid ≠ cid.text := by
  unfold Registry.save at saved
  split at saved
  · cases saved
  split at saved
  · cases saved
  split at saved
  · cases saved
  rename_i ids cids
  cases saved
  exact ⟨rfl, rfl, by simpa using ids, by simpa using cids⟩

/-- What making a disk the current one does: the pointer names its row. -/
theorem updateCurrent_eq_ok {id : RecordId} {r' : Registry} (done : r.updateCurrent id = .ok r') :
    (∃ row ∈ r.rows, row.id = some id.text) ∧ r' = { r with current := some id.text } := by
  unfold Registry.updateCurrent at done
  split at done
  · rename_i recorded
    cases done
    exact ⟨by simpa using recorded, rfl⟩
  · cases done

/-- A record that the pointer does not name leaves the current row. -/
theorem currentRow?_append {rows : List DiskRow} (other : ∀ row ∈ rows, row.id ≠ r.current) :
    currentRow? { r with rows := r.rows ++ rows } = r.currentRow? := by
  cases pointer : r.current with
  | none => simp [currentRow?, pointer]
  | some text =>
    have absent : rows.find? (fun row => decide (row.id = some text)) = none := by
      simpa [pointer] using other
    simp only [currentRow?, pointer, Option.bind_some, List.find?_append, absent, Option.or_none]

/-- Removing the record of another disk leaves the current row. -/
theorem currentRow?_delete {id : RecordId}
    (other : ∀ row, r.currentRow? = some row → row.id ≠ some id.text) :
    (r.delete id).currentRow? = r.currentRow? := by
  cases pointer : r.current with
  | none => simp [currentRow?, Registry.delete, pointer]
  | some text =>
    by_cases same : text = id.text
    · have absent : r.currentRow? = none := by
        cases here : r.currentRow? with
        | none => rfl
        | some row =>
          have named := (of_currentRow? here).2
          rw [pointer, same] at named
          exact absurd named.symm (other row here)
      rw [absent]
      simp [currentRow?, Registry.delete, pointer, same]
    · have kept (row : DiskRow) :
          (row.id ≠ some id.text && row.id = some text : Bool) = decide (row.id = some text) := by
        by_cases h : row.id = some text <;> simp [h, same]
      simp only [currentRow?, Registry.delete, pointer, Option.some.injEq, same, if_false,
        Option.bind_some, List.find?_filter]
      congr 1
      funext row
      simpa using kept row

end Registry

end VmDeploy
