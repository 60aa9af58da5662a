import VmDeploy.Proofs.Registry.Rows

/-!
# A registry as a list of records

A `Ledger` says what a registry is for, without rows, texts and cells: the records in the order in
which they were saved, and the identifier of the current one. Its requests are those of a registry.

A registry that was only ever asked for what is on its list is the written form of a ledger
(`Ledger.registry`), and both answer every request in the same way and stay so
(`Ledger.Sound.answer_eq`). For that a record has to be read from its row as it was written. Its
properties are read as `CloudProperties.Unchanged` says, and of the time that the clock told the
milliseconds are kept (`Timestamp.cut`).
-/

set_option autoImplicit false

namespace VmDeploy

open Result (mapM_mapM_eq_ok)

namespace Timestamp

/-- A point in time without what is less than a millisecond. -/
def cut (t : Timestamp) : Timestamp := ⟨t.seconds, t.nanos / 1000000 * 1000000⟩

/-- What a clock may tell: a point of a day that the calendar has, outside leap seconds. -/
structure IsReading (t : Timestamp) : Prop where
  nanos : t.nanos < 1000000000
  first : firstDay ≤ t.seconds.fdiv secondsPerDay
  last : t.seconds.fdiv secondsPerDay ≤ lastDay

@[simp] theorem toMillis_cut (t : Timestamp) : t.cut.toMillis = t.toMillis := by
  have whole : t.nanos / 1000000 * 1000000 / 1000000 = t.nanos / 1000000 := by omega
  unfold toMillis cut
  dsimp only
  omega

/-- A point in time is read from its milliseconds as it was but for what is less. -/
theorem IsReading.ofMillis?_toMillis {t : Timestamp} (reading : t.IsReading) :
    ofMillis? t.toMillis = some t.cut := by
  obtain ⟨below, first, last⟩ := reading
  have seconds : t.toMillis.fdiv 1000 = t.seconds := by
    rw [Int.fdiv_eq_ediv_of_nonneg _ (by decide)]
    unfold toMillis
    omega
  have millis : (t.toMillis.fmod 1000).toNat = t.nanos / 1000000 := by
    rw [Int.fmod_eq_emod_of_nonneg _ (by decide)]
    unfold toMillis
    omega
  unfold ofMillis? cut
  rw [seconds, millis]
  exact if_pos ⟨first, last⟩

end Timestamp

/-- Properties that are read from their text as they were. -/
def CloudProperties.Unchanged (properties : CloudProperties) : Prop :=
  Json.Reader.object.run (Text.Utf8.encode (Json.object properties).compact) = .ok properties

/-- A record as it is kept. -/
def DiskRecord.stored (record : DiskRecord) : DiskRecord :=
  { record with createdAt := record.createdAt.cut }

namespace DiskRecord

variable {record : DiskRecord}

/-- A row cannot tell more of the time than is kept. -/
@[simp] theorem rowOf_stored : Registry.rowOf record.stored = Registry.rowOf record := by
  unfold Registry.rowOf stored
  rw [Timestamp.toMillis_cut]

/-- A record is read from its row as it is kept. -/
theorem record_rowOf_stored (unchanged : record.cloudProperties.Unchanged)
    (reading : record.createdAt.IsReading) :
    (Registry.rowOf record.stored).record = .ok record.stored := by
  rw [rowOf_stored, Registry.record_rowOf_eq unchanged reading.ofMillis?_toMillis]
  rfl

end DiskRecord

/-- Records in the order in which they were saved, and which of them is the current one. -/
structure Ledger where
  records : List DiskRecord := []
  current : Option RecordId := none

namespace Ledger

/-- Puts a record at the end of the list. -/
def save (l : Ledger) (record : DiskRecord) : Except RegistryError Ledger :=
  if Cell.maxInteger < record.size.toNat then .error (.invalid s!"size {record.size} too large")
  else if l.records.any (·.cid = record.cid) then .error (.storage (.notUnique "disks.cid"))
  else .ok { l with records := l.records ++ [record.stored] }

/-- The records by their time of making. -/
def all (l : Ledger) : List DiskRecord :=
  l.records.mergeSort fun a b => a.createdAt.toMillis ≤ b.createdAt.toMillis

/-- The record of a disk. -/
def find (l : Ledger) (cid : DiskCid) : Option DiskRecord := l.records.find? (·.cid = cid)

/-- The current record. -/
def findCurrent (l : Ledger) : Option DiskRecord :=
  l.current.bind fun id => l.records.find? (·.id = id)

/-- Makes a record of the list the current one. -/
def updateCurrent (l : Ledger) (id : RecordId) : Except RegistryError Ledger :=
  if l.records.any (·.id = id) then .ok { l with current := some id }
  else .error (.notFound id.text)

/-- Takes a record from the list. -/
def delete (l : Ledger) (id : RecordId) : Ledger where
  records := l.records.filter (·.id ≠ id)
  current := if l.current = some id then none else l.current

/-- Answers a request. What is fresh about a record that is saved is given. -/
def answer (id : RecordId) (now : Timestamp) (l : Ledger) :
    (request : RegistryRequest) → request.Answer × Ledger
  | .save cid size properties =>
    match l.save ⟨id, cid, size, properties, now⟩ with
    | .ok l => (.ok ⟨id, cid, size, properties, now⟩, l)
    | .error e => (.error e, l)
  | .all => (.ok l.all, l)
  | .find cid => (.ok (l.find cid), l)
  | .findCurrent => (.ok l.findCurrent, l)
  | .updateCurrent id =>
    match l.updateCurrent id with
    | .ok l => (.ok (), l)
    | .error e => (.error e, l)
  | .delete id => (.ok (), l.delete id)

/-! ## Listings -/

/-- A listing of records: all of them and no others, by their time of making, and those of one time
in the order in which they were saved. -/
structure Lists (records listed : List DiskRecord) : Prop where
  all : listed.Perm records
  times : listed.Pairwise fun a b => a.createdAt.toMillis ≤ b.createdAt.toMillis
  ties : ∀ time, listed.filter (·.createdAt = time) = records.filter (·.createdAt = time)

theorem lists_all (l : Ledger) : Lists l.records l.all := by
  have trans (a b c : DiskRecord) (first : decide (a.createdAt.toMillis ≤ b.createdAt.toMillis))
      (second : decide (b.createdAt.toMillis ≤ c.createdAt.toMillis)) :
      decide (a.createdAt.toMillis ≤ c.createdAt.toMillis) := by
    simp only [decide_eq_true_eq] at first second ⊢
    exact Int.le_trans first second
  have total (a b : DiskRecord) : (decide (a.createdAt.toMillis ≤ b.createdAt.toMillis) ||
      decide (b.createdAt.toMillis ≤ a.createdAt.toMillis)) = true := by
    simp only [Bool.or_eq_true, decide_eq_true_eq]
    exact Int.le_total _ _
  have perm : l.all.Perm l.records := List.mergeSort_perm _ _
  refine ⟨perm, ?_, fun time => ?_⟩
  · exact (List.pairwise_mergeSort trans total l.records).imp fun le => of_decide_eq_true le
  · -- The records of one time are in order before the sorting, so they stand there behind it.
    have tied : (l.records.filter (·.createdAt = time)).Pairwise
        fun a b => decide (a.createdAt.toMillis ≤ b.createdAt.toMillis) = true := by
      refine List.pairwise_iff_forall_sublist.mpr fun {a b} pair => ?_
      have memA := (List.mem_filter.mp (pair.subset List.mem_cons_self)).2
      have memB := (List.mem_filter.mp (pair.subset (List.mem_cons_of_mem _ List.mem_cons_self))).2
      simp only [decide_eq_true_eq] at memA memB ⊢
      exact Int.le_of_eq (by rw [memA, memB])
    have sub : (l.records.filter (·.createdAt = time)).Sublist l.all :=
      List.sublist_mergeSort trans total tied List.filter_sublist
    have within := sub.filter (·.createdAt = time)
    rw [List.filter_filter] at within
    simp only [Bool.and_self] at within
    exact (within.eq_of_length (perm.filter _).length_eq.symm).symm

/-! ## The written form -/

/-- A ledger as a registry keeps it. -/
def registry (l : Ledger) : Registry :=
  ⟨l.records.map Registry.rowOf, l.current.map RecordId.text⟩

/-- A ledger whose records are read as they were written, with identifiers and names of their own,
and whose pointer names one of them. -/
structure Sound (l : Ledger) : Prop where
  readable : ∀ record ∈ l.records, (Registry.rowOf record).record = .ok record
  ids : l.records.Pairwise fun a b => a.id ≠ b.id
  cids : l.records.Pairwise fun a b => a.cid ≠ b.cid
  current : ∀ id, l.current = some id → ∃ record ∈ l.records, record.id = id

variable {l : Ledger}

theorem sound_empty : Sound {} := ⟨by simp, .nil, .nil, by simp⟩

@[simp] theorem rowOf_id_iff {record : DiskRecord} {id : RecordId} :
    (Registry.rowOf record).id = some id.text ↔ record.id = id := by
  constructor
  · intro same
    exact RecordId.text_injective (Option.some.inj same)
  · rintro rfl
    rfl

@[simp] theorem rowOf_cid_iff {record : DiskRecord} {cid : DiskCid} :
    (Registry.rowOf record).cid = cid.text ↔ record.cid = cid := by
  constructor
  · intro same
    exact CloudId.text_injective same
  · rintro rfl
    rfl

theorem le_integer {m n : Int} : (Cell.integer m).le (.integer n) = decide (m ≤ n) := by
  have positive : (0 : Int) < Binary64.unitsOfOne := by decide +kernel
  have scaled : m * Binary64.unitsOfOne ≤ n * Binary64.unitsOfOne ↔ m ≤ n :=
    Int.mul_le_mul_right positive
  simp only [Cell.le, Cell.rank, scaled]
  simp

/-- The rows of a ledger are sorted as its records are. -/
theorem sortedRows_registry : l.registry.sortedRows = l.all.map Registry.rowOf := by
  refine (List.map_mergeSort fun a _ b _ => ?_).symm
  exact le_integer.symm

namespace Sound

/-- A record is saved as it is put on the list. -/
theorem save_eq (id : RecordId) (now : Timestamp) (cid : DiskCid) (size : UInt64)
    (properties : CloudProperties) (fresh : ∀ record ∈ l.records, record.id ≠ id) :
    l.registry.save id now cid size properties =
      (l.save ⟨id, cid, size, properties, now⟩).map fun l' =>
        (⟨id, cid, size, properties, now⟩, l'.registry) := by
  have ids : l.registry.rows.any (·.id = some id.text) = false := by
    simpa [registry] using fresh
  have cids : l.registry.rows.any (·.cid = cid.text) = l.records.any (·.cid = cid) := by
    simp [registry, List.any_map, Function.comp_def]
  unfold Registry.save Ledger.save
  dsimp only
  rw [ids, cids]
  split
  · rfl
  · cases l.records.any (·.cid = cid) with
    | true => rfl
    | false => simp [registry, Except.map]

theorem all_eq (sound : l.Sound) : l.registry.all = .ok l.all := by
  have listed : ∀ record ∈ l.all, (DiskRow.typed ∘ Registry.rowOf) record >>=
      DiskRow.Typed.record = .ok (id record) := by
    intro record mem
    exact sound.readable record (l.lists_all.all.subset mem)
  unfold Registry.all
  rw [sortedRows_registry, List.mapM_map, mapM_mapM_eq_ok listed, List.map_id]

/-- A row that is looked for is the row of a record, and is read as it. -/
theorem read_eq (sound : l.Sound) {condition : DiskRow → Bool} {condition' : DiskRecord → Bool}
    (same : ∀ record, condition (Registry.rowOf record) = condition' record) :
    (match l.registry.rows.find? condition with
      | none => .ok none
      | some row => row.record.map some : Except RegistryError (Option DiskRecord)) =
        .ok (l.records.find? condition') := by
  have found : l.registry.rows.find? condition =
      (l.records.find? condition').map Registry.rowOf := by
    simp only [registry, List.find?_map, Function.comp_def, same]
  rw [found]
  cases here : l.records.find? condition' with
  | none => rfl
  | some record =>
    have read := sound.readable record (List.mem_of_find?_eq_some here)
    dsimp only [Option.map_some]
    rw [read]
    rfl

theorem find_eq (sound : l.Sound) (cid : DiskCid) : l.registry.find cid = .ok (l.find cid) :=
  sound.read_eq fun _ => decide_eq_decide.mpr rowOf_cid_iff

theorem findCurrent_eq (sound : l.Sound) : l.registry.findCurrent = .ok l.findCurrent := by
  unfold Registry.findCurrent Registry.currentRow? findCurrent
  cases pointer : l.current with
  | none => simp [registry, pointer]
  | some id =>
    have text : l.registry.current = some id.text := by simp [registry, pointer]
    rw [text]
    exact sound.read_eq fun _ => decide_eq_decide.mpr rowOf_id_iff

theorem updateCurrent_eq (id : RecordId) :
    l.registry.updateCurrent id = (l.updateCurrent id).map registry := by
  have ids : l.registry.rows.any (·.id = some id.text) = l.records.any (·.id = id) := by
    simp [registry, List.any_map, Function.comp_def]
  unfold Registry.updateCurrent Ledger.updateCurrent
  rw [ids]
  cases l.records.any (·.id = id) with
  | true => simp [registry, Except.map]
  | false => rfl

theorem delete_eq (id : RecordId) : l.registry.delete id = (l.delete id).registry := by
  have pointer : l.current.map RecordId.text = some id.text ↔ l.current = some id := by
    cases l.current with
    | none => simp
    | some other => simpa using ⟨RecordId.text_injective, fun same => by rw [same]⟩
  unfold Registry.delete Ledger.delete registry
  simp only [List.filter_map, Function.comp_def, ne_eq, rowOf_id_iff, pointer]
  split <;> rfl

end Sound

/-- What is asked for a request: a record that is saved gets an identifier that is not on the list,
and is kept as the request has it. -/
def Admits (l : Ledger) (id : RecordId) (now : Timestamp) : RegistryRequest → Prop
  | .save _ _ properties =>
    (∀ record ∈ l.records, record.id ≠ id) ∧ properties.Unchanged ∧ now.IsReading
  | _ => True

/-- What a list becomes by a record. -/
theorem save_eq_ok {record : DiskRecord} {l' : Ledger} (saved : l.save record = .ok l') :
    l' = { l with records := l.records ++ [record.stored] } ∧
      ∀ other ∈ l.records, other.cid ≠ record.cid := by
  unfold save at saved
  split at saved
  · cases saved
  split at saved
  · cases saved
  · rename_i others
    cases saved
    exact ⟨rfl, by simpa using others⟩

theorem updateCurrent_eq_ok {id : RecordId} {l' : Ledger} (done : l.updateCurrent id = .ok l') :
    l' = { l with current := some id } ∧ ∃ record ∈ l.records, record.id = id := by
  unfold updateCurrent at done
  split at done
  · rename_i recorded
    cases done
    exact ⟨rfl, by simpa using recorded⟩
  · cases done

namespace Sound

variable {id : RecordId} {now : Timestamp}

/-- The written form of a ledger answers as the ledger does, and becomes the written form of what
the ledger becomes. -/
theorem answer_eq (sound : l.Sound) {request : RegistryRequest} (admits : l.Admits id now request) :
    l.registry.answer id now request =
      ((l.answer id now request).1, (l.answer id now request).2.registry) := by
  cases request with
  | save cid size properties =>
    simp only [Registry.answer, Ledger.answer, save_eq id now cid size properties admits.1]
    cases l.save ⟨id, cid, size, properties, now⟩ <;> rfl
  | all => exact Prod.ext sound.all_eq rfl
  | find cid => exact Prod.ext (sound.find_eq cid) rfl
  | findCurrent => exact Prod.ext sound.findCurrent_eq rfl
  | updateCurrent id =>
    simp only [Registry.answer, Ledger.answer, updateCurrent_eq]
    cases l.updateCurrent id <;> rfl
  | delete id => exact Prod.ext rfl (delete_eq id)

theorem save (sound : l.Sound) {record : DiskRecord} {l' : Ledger}
    (saved : l.save record = .ok l') (fresh : ∀ other ∈ l.records, other.id ≠ record.id)
    (unchanged : record.cloudProperties.Unchanged) (reading : record.createdAt.IsReading) :
    l'.Sound := by
  obtain ⟨rfl, others⟩ := save_eq_ok saved
  refine ⟨?_, ?_, ?_, fun id here => ?_⟩
  · refine List.forall_mem_append.mpr ⟨sound.readable, List.forall_mem_singleton.mpr ?_⟩
    exact DiskRecord.record_rowOf_stored unchanged reading
  · refine List.pairwise_append.mpr ⟨sound.ids, List.pairwise_singleton _ _, ?_⟩
    exact fun other mem => List.forall_mem_singleton.mpr (fresh other mem)
  · refine List.pairwise_append.mpr ⟨sound.cids, List.pairwise_singleton _ _, ?_⟩
    exact fun other mem => List.forall_mem_singleton.mpr (others other mem)
  · obtain ⟨record, mem, named⟩ := sound.current id here
    exact ⟨record, List.mem_append_left _ mem, named⟩

theorem delete (sound : l.Sound) (id : RecordId) : (l.delete id).Sound := by
  refine ⟨?_, sound.ids.filter _, sound.cids.filter _, fun other here => ?_⟩
  · exact fun record mem => sound.readable record (List.mem_filter.mp mem |>.1)
  · unfold Ledger.delete at here
    dsimp only at here
    split at here
    · cases here
    · rename_i kept
      obtain ⟨record, mem, named⟩ := sound.current other here
      refine ⟨record, List.mem_filter.mpr ⟨mem, ?_⟩, named⟩
      rw [named, decide_eq_true_eq]
      rintro rfl
      exact kept here

/-- Every request keeps a ledger sound. -/
theorem answer (sound : l.Sound) {request : RegistryRequest} (admits : l.Admits id now request) :
    (l.answer id now request).2.Sound := by
  cases request with
  | save cid size properties =>
    obtain ⟨fresh, unchanged, reading⟩ := admits
    unfold Ledger.answer
    dsimp only
    split
    · rename_i saved
      exact sound.save saved fresh unchanged reading
    · exact sound
  | all | find _ | findCurrent => exact sound
  | updateCurrent id =>
    unfold Ledger.answer
    dsimp only
    split
    · rename_i done
      obtain ⟨rfl, recorded⟩ := updateCurrent_eq_ok done
      refine ⟨sound.readable, sound.ids, sound.cids, fun other here => ?_⟩
      cases here
      exact recorded
    · exact sound
  | delete id => exact sound.delete id

end Sound

end Ledger

end VmDeploy
