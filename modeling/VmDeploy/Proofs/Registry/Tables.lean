import Mathlib.Data.List.Nodup
import VmDeploy.Proofs.Registry.Rows

/-!
# The tables of a registry file

A registry is kept in two tables of a file. One holds the disks, each under a number that it gets
when it is put in: the one behind the highest in use, so that the number of a row that was removed
may come back. The other has a single row, and in it the pointer. Only the requests keep the two
in step.

Opening a file makes the tables that it lacks, and puts in the row of the pointer if it is missing.
A request is one statement, or two one behind the other; a listing is ordered by the stored time of
making and then by number. `Tables.answer_eq` says that a `Registry` is what is seen of the tables
through the requests: the rows in the order of their numbers, and the pointer. That the numbers
grow and that the row of the pointer is there and alone is kept by all that is done (`Kept`).
-/

set_option autoImplicit false

namespace VmDeploy

/-! ## The order of cells -/

namespace Cell

/-- The text of a cell, if it holds one. -/
def writing : Cell → String
  | .text s => s
  | _ => ""

/-- Texts have a rank of their own. -/
theorem text_or_blank (c : Cell) : (∃ s, c = .text s) ∨ c.rank.1 ≠ 4 ∧ c.writing = "" := by
  cases c with
  | text s => exact .inl ⟨s, rfl⟩
  | infinite negative => cases negative <;> exact .inr ⟨by decide, rfl⟩
  | empty => exact .inr ⟨by decide, rfl⟩
  | integer _ | real _ =>
    refine .inr ⟨?_, rfl⟩
    show 2 ≠ 4
    decide

/-- Cells are ordered by their rank, and texts by their letters. -/
theorem le_iff {a b : Cell} :
    a.le b = true ↔ a.rank.1 < b.rank.1 ∨ a.rank.1 = b.rank.1 ∧ (a.rank.2 < b.rank.2 ∨
      a.rank.2 = b.rank.2 ∧ a.writing ≤ b.writing) := by
  unfold le
  split
  · rename_i s t
    rw [Bool.not_eq_true', decide_eq_false_iff_not, String.not_lt]
    constructor
    · exact fun before => .inr ⟨rfl, .inr ⟨rfl, before⟩⟩
    · rintro (less | ⟨-, less | ⟨-, before⟩⟩)
      · exact absurd less (Nat.lt_irrefl _)
      · exact absurd less (Int.lt_irrefl _)
      · exact before
  · rename_i other
    have same : a.rank.1 = b.rank.1 → a.writing ≤ b.writing := by
      intro level
      rcases text_or_blank a with ⟨s, rfl⟩ | ⟨noneA, blankA⟩
      · rcases text_or_blank b with ⟨t, rfl⟩ | ⟨noneB, -⟩
        · exact (other s t rfl rfl).elim
        · exact absurd level.symm noneB
      · rcases text_or_blank b with ⟨t, rfl⟩ | ⟨-, blankB⟩
        · exact absurd level noneA
        · exact blankA ▸ blankB ▸ String.le_refl _
    simp only [Bool.or_eq_true, Bool.and_eq_true, decide_eq_true_eq]
    constructor
    · rintro (before | ⟨level, before⟩)
      · exact .inl before
      · rcases Int.lt_or_eq_of_le before with less | equal
        · exact .inr ⟨level, .inl less⟩
        · exact .inr ⟨level, .inr ⟨equal, same level⟩⟩
    · rintro (before | ⟨level, less | ⟨equal, -⟩⟩)
      · exact .inl before
      · exact .inr ⟨level, Int.le_of_lt less⟩
      · exact .inr ⟨level, Int.le_of_eq equal⟩

theorem le_trans (a b c : Cell) (first : a.le b = true) (second : b.le c = true) :
    a.le c = true := by
  rw [le_iff] at first second ⊢
  rcases first with first | ⟨level, first | ⟨equal, first⟩⟩
  · omega
  · omega
  · rcases second with second | ⟨level', second | ⟨equal', second⟩⟩
    · omega
    · omega
    · exact .inr ⟨level.trans level', .inr ⟨equal.trans equal', String.le_trans first second⟩⟩

theorem le_total (a b : Cell) : (a.le b || b.le a) = true := by
  rw [Bool.or_eq_true, le_iff, le_iff]
  rcases Nat.lt_trichotomy a.rank.1 b.rank.1 with less | level | greater
  · exact .inl (.inl less)
  · rcases Int.lt_trichotomy a.rank.2 b.rank.2 with less | equal | greater
    · exact .inl (.inr ⟨level, .inl less⟩)
    · rcases String.le_total a.writing b.writing with before | behind
      · exact .inl (.inr ⟨level, .inr ⟨equal, before⟩⟩)
      · exact .inr (.inr ⟨level.symm, .inr ⟨equal.symm, behind⟩⟩)
    · exact .inr (.inr ⟨level.symm, .inl greater⟩)
  · exact .inr (.inl greater)

end Cell

/-! ## Tables and statements -/

/-- A row of the table of disks under its number. -/
structure NumberedRow where
  number : Nat
  row : DiskRow
  deriving DecidableEq, Repr

/-- A row of the table of the pointer. Its identifier is always one. -/
structure PointerRow where
  id : Int
  current : Option String
  deriving DecidableEq, Repr

/-- What a file holds. A new one has no tables. -/
structure RegistryFile where
  pointer : Option (List PointerRow) := none
  disks : Option (List NumberedRow) := none
  deriving DecidableEq, Repr

/-- The tables of a file that is open. -/
structure Tables where
  pointer : List PointerRow
  disks : List NumberedRow
  deriving DecidableEq, Repr

/-- Texts in two columns are the same only if both are there. -/
def sameText (a b : Option String) : Bool := a.isSome && a = b

namespace RegistryFile

/-- Makes a table if there is none. -/
def createIfMissing {α : Type} (table : Option (List α)) : List α := table.getD []

/-- Puts in the row of the pointer, which names nothing at first, if it is not there. -/
def insertOrIgnore (rows : List PointerRow) : List PointerRow :=
  if rows.any (·.id = 1) then rows else rows ++ [⟨1, none⟩]

/-- Opens a file. -/
def opened (file : RegistryFile) : Tables where
  pointer := insertOrIgnore (createIfMissing file.pointer)
  disks := createIfMissing file.disks

end RegistryFile

namespace NumberedRow

/-- Whether a row comes before another in a listing: by the time of making, then by number. -/
def le (a b : NumberedRow) : Bool :=
  a.row.createdAt.le b.row.createdAt &&
    (!b.row.createdAt.le a.row.createdAt || a.number ≤ b.number)

/-- The number behind all that are in use. -/
def nextNumber (disks : List NumberedRow) : Nat := disks.foldr (max ·.number ·) 0 + 1

/-- Puts in a row. Its identifier and its name must not be there. -/
def insert (row : DiskRow) (disks : List NumberedRow) : Except StorageError (List NumberedRow) :=
  if disks.any (sameText ·.row.id row.id) then .error (.repeatedKey "disks.id")
  else if disks.any (·.row.cid = row.cid) then .error (.notUnique "disks.cid")
  else .ok (disks ++ [⟨nextNumber disks, row⟩])

end NumberedRow

namespace Tables

/-- The tables as the file keeps them. -/
def closed (t : Tables) : RegistryFile := ⟨some t.pointer, some t.disks⟩

/-- The file is opened again. -/
def reopen (t : Tables) : Tables := t.closed.opened

/-- What the pointer names. -/
def current (t : Tables) : Option String :=
  (t.pointer.find? (·.id = 1)).bind (·.current)

/-- The first row that a condition holds of. -/
def select (t : Tables) (condition : DiskRow → Bool) : Option DiskRow :=
  (t.disks.find? fun r => condition r.row).map (·.row)

/-- Changes the row of the pointer. -/
def updatePointer (t : Tables) (change : Option String → Option String) : Tables :=
  { t with pointer := t.pointer.map fun p =>
      if p.id = 1 then { p with current := change p.current } else p }

/-- Records a disk. -/
def save (t : Tables) (id : RecordId) (now : Timestamp) (cid : DiskCid) (size : UInt64)
    (properties : CloudProperties) : Except RegistryError (DiskRecord × Tables) :=
  let record : DiskRecord := ⟨id, cid, size, properties, now⟩
  if Cell.maxInteger < size.toNat then .error (.invalid s!"size {size} too large")
  else
    match NumberedRow.insert (Registry.rowOf record) t.disks with
    | .error e => .error (.storage e)
    | .ok disks => .ok (record, { t with disks := disks })

/-- All records, the oldest first. -/
def all (t : Tables) : Except RegistryError (List DiskRecord) := do
  let typed ← (t.disks.mergeSort NumberedRow.le).mapM (·.row.typed)
  typed.mapM DiskRow.Typed.record

/-- Reads a row that was selected. -/
def read (row? : Option DiskRow) : Except RegistryError (Option DiskRecord) :=
  match row? with
  | none => .ok none
  | some row => row.record.map some

/-- The record of a disk. -/
def find (t : Tables) (cid : DiskCid) : Except RegistryError (Option DiskRecord) :=
  read (t.select (·.cid = cid.text))

/-- The record of the current disk. -/
def findCurrent (t : Tables) : Except RegistryError (Option DiskRecord) :=
  read (t.select fun row => sameText row.id t.current)

/-- Makes a recorded disk the current one: looks for the row, then sets the pointer. -/
def updateCurrent (t : Tables) (id : RecordId) : Except RegistryError Tables :=
  if (t.select fun row => sameText row.id (some id.text)).isNone then .error (.notFound id.text)
  else .ok (t.updatePointer fun _ => some id.text)

/-- Removes a record: first its row, and then the pointer if it names it. -/
def delete (t : Tables) (id : RecordId) : Tables :=
  let without := { t with disks := t.disks.filter fun r => !sameText r.row.id (some id.text) }
  without.updatePointer fun current => if sameText current (some id.text) then none else current

/-- Answers a request. What is fresh about a record that is saved is given. -/
def answer (id : RecordId) (now : Timestamp) (t : Tables) :
    (request : RegistryRequest) → request.Answer × Tables
  | .save cid size properties =>
    match t.save id now cid size properties with
    | .ok (record, t) => (.ok record, t)
    | .error e => (.error e, t)
  | .all => (t.all, t)
  | .find cid => (t.find cid, t)
  | .findCurrent => (t.findCurrent, t)
  | .updateCurrent id =>
    match t.updateCurrent id with
    | .ok t => (.ok (), t)
    | .error e => (.error e, t)
  | .delete id => (.ok (), t.delete id)

/-- What is seen of the tables. -/
def registry (t : Tables) : Registry := ⟨t.disks.map (·.row), t.current⟩

/-- What every request keeps. -/
structure Kept (t : Tables) : Prop where
  /-- There is one row for the pointer. -/
  pointer : ∃ current, t.pointer = [⟨1, current⟩]
  /-- The rows stand in the order of their numbers. -/
  numbers : t.disks.Pairwise fun a b => a.number < b.number

end Tables

/-! ## The order of a listing -/

namespace NumberedRow

variable {disks : List NumberedRow}

theorem lt_nextNumber {r : NumberedRow} (mem : r ∈ disks) : r.number < nextNumber disks := by
  induction disks with
  | nil => cases mem
  | cons other disks ih =>
    unfold nextNumber at ih ⊢
    rw [List.foldr_cons]
    rcases List.mem_cons.mp mem with rfl | later
    · omega
    · have := ih later
      omega

theorem le_trans (a b c : NumberedRow) (first : a.le b = true) (second : b.le c = true) :
    a.le c = true := by
  simp only [le, Bool.and_eq_true, Bool.or_eq_true, Bool.not_eq_true', decide_eq_true_eq]
    at first second ⊢
  refine ⟨Cell.le_trans _ _ _ first.1 second.1, ?_⟩
  cases back : c.row.createdAt.le a.row.createdAt with
  | false => exact .inl rfl
  | true =>
    -- All three were made at one time, so the numbers decide.
    have ba := Cell.le_trans _ _ _ second.1 back
    have cb := Cell.le_trans _ _ _ back first.1
    simp only [ba, cb, Bool.true_eq_false, false_or] at first second
    exact .inr (Nat.le_trans first.2 second.2)

theorem le_total (a b : NumberedRow) : (a.le b || b.le a) = true := by
  have times := Cell.le_total a.row.createdAt b.row.createdAt
  simp only [le, Bool.and_eq_true, Bool.or_eq_true, Bool.not_eq_true', decide_eq_true_eq]
    at times ⊢
  cases ab : a.row.createdAt.le b.row.createdAt <;>
    cases ba : b.row.createdAt.le a.row.createdAt <;> simp_all
  exact Nat.le_total _ _

/-- Sorted by time alone, rows that stand in the order of their numbers keep it where the times
are the same. -/
theorem pairwise_mergeSort (numbers : disks.Pairwise fun a b => a.number < b.number) :
    (disks.mergeSort fun a b => a.row.createdAt.le b.row.createdAt).Pairwise
      fun a b => a.le b = true := by
  induction disks with
  | nil => simp
  | cons a disks ih =>
    obtain ⟨ahead, numbers⟩ := List.pairwise_cons.mp numbers
    have trans (a b c : NumberedRow) :=
      Cell.le_trans a.row.createdAt b.row.createdAt c.row.createdAt
    have total (a b : NumberedRow) := Cell.le_total a.row.createdAt b.row.createdAt
    have byTime := List.pairwise_mergeSort trans total (a :: disks)
    have perm := List.mergeSort_perm disks fun a b => a.row.createdAt.le b.row.createdAt
    obtain ⟨before, behind, whole, others, earlier⟩ := List.mergeSort_cons trans total a disks
    rw [whole] at byTime ⊢
    have sorted := ih numbers
    rw [others] at sorted perm
    rw [List.pairwise_append, List.pairwise_cons] at byTime ⊢
    rw [List.pairwise_append] at sorted
    refine ⟨sorted.1, ⟨fun c mem => ?_, sorted.2.1⟩, fun b mem c mem' => ?_⟩
    · have number := ahead c (perm.subset (List.mem_append_right _ mem))
      simp [le, byTime.2.1.1 c mem, Nat.le_of_lt number]
    · rcases List.mem_cons.mp mem' with rfl | later
      · have time := byTime.2.2 b mem c List.mem_cons_self
        have late := earlier b mem
        simp only [Bool.not_eq_true'] at late
        simp [le, time, late]
      · exact sorted.2.2 b mem c later

/-- Ordered by time and number, rows stand as if they were sorted by time alone. -/
theorem mergeSort_le (numbers : disks.Pairwise fun a b => a.number < b.number) :
    disks.mergeSort le = disks.mergeSort fun a b => a.row.createdAt.le b.row.createdAt := by
  have apart : (disks.map (·.number)).Nodup := List.pairwise_map.mpr (numbers.imp Nat.ne_of_lt)
  have perm := List.mergeSort_perm disks le
  have perm' := List.mergeSort_perm disks fun a b => a.row.createdAt.le b.row.createdAt
  refine List.Perm.eq_of_pairwise ?_ (List.pairwise_mergeSort le_trans le_total disks)
    (pairwise_mergeSort numbers) (perm.trans perm'.symm)
  intro a b memA memB ab ba
  refine List.inj_on_of_nodup_map apart (perm.subset memA) (perm'.subset memB) ?_
  simp only [le, Bool.and_eq_true, Bool.or_eq_true, Bool.not_eq_true', decide_eq_true_eq] at ab ba
  simp only [ab.1, ba.1, Bool.true_eq_false, false_or, true_and] at ab ba
  exact Nat.le_antisymm ab ba

end NumberedRow

/-! ## What is seen of the tables -/

@[simp] theorem sameText_none {a : Option String} : sameText a none = false := by
  cases a <;> simp [sameText]

@[simp] theorem sameText_some {a : Option String} {s : String} :
    sameText a (some s) = decide (a = some s) := by
  cases a <;> simp [sameText]

/-- What stands in the way of a record is looked for in its identifier and its name. -/
theorem NumberedRow.insert_rowOf {disks : List NumberedRow} {record : DiskRecord} :
    insert (Registry.rowOf record) disks =
      if (disks.map (·.row)).any (·.id = some record.id.text) then .error (.repeatedKey "disks.id")
      else if (disks.map (·.row)).any (·.cid = record.cid.text) then
        .error (.notUnique "disks.cid")
      else .ok (disks ++ [⟨nextNumber disks, Registry.rowOf record⟩]) := by
  simp only [insert, Registry.rowOf, sameText_some, List.any_map, Function.comp_def]
  rfl

namespace Tables

variable {t : Tables}

/-- A new file is opened with empty tables and a pointer that names nothing. -/
theorem kept_new : Kept (RegistryFile.opened {}) := ⟨⟨none, rfl⟩, .nil⟩

/-- A file that was in use is opened with what it holds. -/
theorem Kept.reopen_eq (kept : t.Kept) : t.reopen = t := by
  obtain ⟨current, alone⟩ := kept.pointer
  obtain ⟨pointer, disks⟩ := t
  cases alone
  rfl

theorem select_eq {condition : DiskRow → Bool} :
    t.select condition = t.registry.rows.find? condition :=
  List.find?_map.symm

theorem Kept.updatePointer (kept : t.Kept) (change : Option String → Option String) :
    (t.updatePointer change).Kept ∧ (t.updatePointer change).disks = t.disks ∧
      (t.updatePointer change).current = change t.current := by
  obtain ⟨current, alone⟩ := kept.pointer
  obtain ⟨pointer, disks⟩ := t
  cases alone
  exact ⟨⟨⟨_, rfl⟩, kept.numbers⟩, rfl, rfl⟩

/-- A disk is recorded in the tables as it is in the registry. -/
theorem Kept.save_eq (kept : t.Kept) (id : RecordId) (now : Timestamp) (cid : DiskCid)
    (size : UInt64) (properties : CloudProperties) :
    (∃ e, t.save id now cid size properties = .error e ∧
      t.registry.save id now cid size properties = .error e) ∨
    ∃ record t', t.save id now cid size properties = .ok (record, t') ∧
      t.registry.save id now cid size properties = .ok (record, t'.registry) ∧ t'.Kept := by
  have rows : t.disks.map (·.row) = t.registry.rows := rfl
  unfold Tables.save Registry.save
  dsimp only
  rw [NumberedRow.insert_rowOf, rows]
  split
  · exact .inl ⟨_, rfl, rfl⟩
  cases t.registry.rows.any (·.id = some id.text) with
  | true => exact .inl ⟨_, rfl, rfl⟩
  | false =>
    cases t.registry.rows.any (·.cid = cid.text) with
    | true => exact .inl ⟨_, rfl, rfl⟩
    | false =>
      refine .inr ⟨_, _, rfl, ?_, kept.pointer, ?_⟩
      · simp [registry, Tables.current]
      · refine List.pairwise_append.mpr ⟨kept.numbers, List.pairwise_singleton _ _, ?_⟩
        rintro r mem _ last
        cases List.mem_singleton.mp last
        exact NumberedRow.lt_nextNumber mem

/-- All records are listed in the same order. -/
theorem Kept.all_eq (kept : t.Kept) : t.all = t.registry.all := by
  have sorted : (t.disks.mergeSort NumberedRow.le).map (·.row) = t.registry.sortedRows := by
    rw [NumberedRow.mergeSort_le kept.numbers]
    exact List.map_mergeSort fun _ _ _ _ => rfl
  unfold Tables.all Registry.all
  rw [← sorted, List.mapM_map]
  rfl

theorem find_eq {cid : DiskCid} : t.find cid = t.registry.find cid := congrArg read select_eq

theorem findCurrent_eq : t.findCurrent = t.registry.findCurrent := by
  have row : t.select (fun row => sameText row.id t.current) = t.registry.currentRow? := by
    rw [select_eq]
    unfold Registry.currentRow?
    cases here : t.current <;> simp [registry, here]
  exact congrArg read row

theorem Kept.updateCurrent_eq (kept : t.Kept) (id : RecordId) :
    (∃ e, t.updateCurrent id = .error e ∧ t.registry.updateCurrent id = .error e) ∨
    ∃ t', t.updateCurrent id = .ok t' ∧ t.registry.updateCurrent id = .ok t'.registry ∧
      t'.Kept := by
  have missing : (t.select fun row => sameText row.id (some id.text)).isNone =
      !t.registry.rows.any (·.id = some id.text) := by
    rw [select_eq, Bool.eq_iff_iff]
    simp
  unfold Tables.updateCurrent Registry.updateCurrent
  rw [missing]
  cases t.registry.rows.any (·.id = some id.text) with
  | false => exact .inl ⟨_, rfl, rfl⟩
  | true =>
    obtain ⟨kept', disks, current⟩ := kept.updatePointer fun _ => some id.text
    refine .inr ⟨_, rfl, ?_, kept'⟩
    simp [registry, disks, current]

/-- Both statements of a removal together are the removal in the registry. -/
theorem Kept.delete_eq (kept : t.Kept) (id : RecordId) :
    (t.delete id).registry = t.registry.delete id ∧ (t.delete id).Kept := by
  have without : Kept { t with
      disks := t.disks.filter fun r => !sameText r.row.id (some id.text) } :=
    ⟨kept.pointer, kept.numbers.filter _⟩
  obtain ⟨kept', disks, current⟩ := without.updatePointer
    fun current => if sameText current (some id.text) then none else current
  have rows : (t.disks.filter fun r => !sameText r.row.id (some id.text)).map (·.row) =
      t.registry.rows.filter (·.id ≠ some id.text) := by
    simp [registry, List.filter_map, Function.comp_def]
  refine ⟨?_, kept'⟩
  unfold Tables.delete Registry.delete
  rw [registry, disks, current, rows]
  simp only [sameText_some, decide_eq_true_eq]
  rfl

/-- The tables answer every request as the registry that is seen of them does, and what is seen of
them afterwards is what the registry has become. -/
theorem Kept.answer_eq (kept : t.Kept) (id : RecordId) (now : Timestamp)
    (request : RegistryRequest) :
    ((t.answer id now request).1, (t.answer id now request).2.registry) =
        t.registry.answer id now request ∧ (t.answer id now request).2.Kept := by
  cases request with
  | save cid size properties =>
    obtain ⟨e, here, there⟩ | ⟨record, t', here, there, kept'⟩ :=
      kept.save_eq id now cid size properties
    · simpa only [Tables.answer, Registry.answer, here, there, true_and] using kept
    · simpa only [Tables.answer, Registry.answer, here, there, true_and] using kept'
  | all => exact ⟨Prod.ext kept.all_eq rfl, kept⟩
  | find cid => exact ⟨Prod.ext find_eq rfl, kept⟩
  | findCurrent => exact ⟨Prod.ext findCurrent_eq rfl, kept⟩
  | updateCurrent id =>
    obtain ⟨e, here, there⟩ | ⟨t', here, there, kept'⟩ := kept.updateCurrent_eq id
    · simpa only [Tables.answer, Registry.answer, here, there, true_and] using kept
    · simpa only [Tables.answer, Registry.answer, here, there, true_and] using kept'
  | delete id => exact ⟨Prod.ext rfl (kept.delete_eq id).1, (kept.delete_eq id).2⟩

end Tables

end VmDeploy
