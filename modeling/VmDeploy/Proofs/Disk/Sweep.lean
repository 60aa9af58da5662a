import Mathlib.Data.List.Nodup
import Mathlib.Data.List.Pairwise
import VmDeploy.Disk.Inventory
import VmDeploy.Proofs.Registry.Environment
import VmDeploy.Proofs.Services.Actions

/-!
# The sweep of unused disks

Which disks a sweep passes, and what it leaves in the registry. The records but the current one are
taken in the order of their listing, each in a step of its own, up to the first disk that cannot be
deleted or whose record cannot be removed (`Sweep`). The disks before it have lost their records,
whether the cloud deleted them or had none; all others, and the pointer, are as they were
(`Swept`). So a sweep that succeeds leaves the current record alone, and another one finds nothing
to do.

The records that are removed are sought by the text of their identifiers. No row of another
identifier is found by it, so nothing is lost whoever wrote the registry. A row which somebody else
wrote may have another text of its identifier: it is listed, and it is not found again. Exactly such
a row stays behind when its disk is passed (`Swept.removed_iff`), and then a sweep that succeeds may
leave a record which is not the current one (`passed_disk_recorded`). In a `Canonical` registry there
is no such row; there the records of all disks that were passed are gone (`Settled`).
-/

set_option autoImplicit false

namespace VmDeploy

namespace Registry

/-- Rows that read as records have the texts of their identifiers, each its own. -/
structure Canonical (r : Registry) : Prop where
  text : ∀ row ∈ r.rows, ∀ record, row.record = .ok record → row.id = some record.id.text
  distinct : (r.rows.filterMap DiskRow.id).Nodup

/-- What is left of a registry without some records. -/
def without (r : Registry) (records : List DiskRecord) : Registry :=
  records.foldl (fun r record => r.delete record.id) r

variable {r : Registry}

theorem Sound.canonical (sound : r.Sound) : r.Canonical where
  text _ mem _ read := sound.id_of_record mem read
  distinct := by
    refine List.pairwise_filterMap.mpr (sound.ids.imp ?_)
    rintro a b other text ha text' hb rfl
    exact other (ha.trans hb.symm)

/-! ## Records that are removed -/

theorem rows_without (records : List DiskRecord) :
    (r.without records).rows
      = r.rows.filter fun row => records.all fun record => row.id ≠ some record.id.text := by
  induction records generalizing r with
  | nil => simp [without]
  | cons record records ih =>
    refine (ih (r := r.delete record.id)).trans ?_
    rw [Registry.delete, List.filter_filter]
    refine List.filter_congr fun row _ => ?_
    rw [List.all_cons, Bool.and_comm]

/-- Removing records that the pointer does not name leaves the pointer. -/
theorem current_without {records : List DiskRecord}
    (other : ∀ record ∈ records, r.current ≠ some record.id.text) :
    (r.without records).current = r.current := by
  induction records generalizing r with
  | nil => rfl
  | cons record records ih =>
    obtain ⟨here, others⟩ := List.forall_mem_cons.mp other
    have same : (r.delete record.id).current = r.current := if_neg here
    rw [← same] at others ⊢
    exact ih others

/-- Removing records can only clear the pointer. -/
theorem current_without_eq (records : List DiskRecord) :
    (r.without records).current = r.current ∨ (r.without records).current = none := by
  induction records generalizing r with
  | nil => exact .inl rfl
  | cons record records ih =>
    by_cases here : r.current = some record.id.text
    · have cleared : (r.delete record.id).current = none := if_pos here
      exact .inr ((ih (r := r.delete record.id)).elim (·.trans cleared) id)
    · have same : (r.delete record.id).current = r.current := if_neg here
      exact (ih (r := r.delete record.id)).imp_left (·.trans same)

/-- Removing records of other rows leaves the current row. -/
theorem currentRow?_without {records : List DiskRecord}
    (other : ∀ record ∈ records, ∀ row, r.currentRow? = some row →
      row.id ≠ some record.id.text) :
    (r.without records).currentRow? = r.currentRow? := by
  induction records generalizing r with
  | nil => rfl
  | cons record records ih =>
    obtain ⟨here, others⟩ := List.forall_mem_cons.mp other
    have same : (r.delete record.id).currentRow? = r.currentRow? := currentRow?_delete here
    rw [← same] at others
    exact (ih others).trans same

/-! ## Records that are listed -/

namespace Canonical

variable (canonical : r.Canonical)

include canonical

/-- The identifiers of a listing are those of the rows. -/
theorem texts_of_all {records : List DiskRecord} (listed : r.all = .ok records) :
    records.map (fun record => record.id.text) = r.sortedRows.filterMap DiskRow.id := by
  have text : ∀ row ∈ r.sortedRows, ∀ record, row.record = .ok record →
      row.id = some record.id.text :=
    fun row mem => canonical.text row (List.mem_mergeSort.mp mem)
  have read := forall₂_of_all listed
  clear listed
  generalize r.sortedRows = rows at text read
  induction read with
  | nil => rfl
  | cons here _ ih =>
    obtain ⟨first, others⟩ := List.forall_mem_cons.mp text
    rw [List.map_cons, List.filterMap_cons_some (first _ here), ih others]

/-- No identifier is listed twice. -/
theorem nodup_of_all {records : List DiskRecord} (listed : r.all = .ok records) :
    (records.map fun record => record.id.text).Nodup := by
  rw [canonical.texts_of_all listed]
  have sorted : r.sortedRows.Perm r.rows := List.mergeSort_perm _ _
  exact (sorted.filterMap DiskRow.id).nodup_iff.mpr canonical.distinct

end Canonical

/-- At most one row has an identifier, if no two rows have the same. -/
theorem filter_id {rows : List DiskRow} (distinct : (rows.filterMap DiskRow.id).Nodup)
    (text : String) :
    rows.filter (fun row => row.id = some text)
      = (rows.find? fun row => row.id = some text).toList := by
  induction rows with
  | nil => rfl
  | cons row rows ih =>
    by_cases here : row.id = some text
    · rw [List.filterMap_cons_some here, List.nodup_cons] at distinct
      rw [List.filter_cons_of_pos (by simpa using here),
        List.find?_cons_of_pos (by simpa using here)]
      refine congrArg _ (List.filter_eq_nil_iff.mpr fun other mem same => distinct.1 ?_)
      exact List.mem_filterMap.mpr ⟨other, mem, of_decide_eq_true same⟩
    · rw [List.filter_cons_of_neg (by simpa using here),
        List.find?_cons_of_neg (by simpa using here)]
      refine ih ?_
      rw [List.filterMap_cons] at distinct
      split at distinct
      · exact distinct
      · exact distinct.of_cons

end Registry

/-! ## Steps of a sweep -/

/-- A step leaves the registry as its body does. -/
theorem Noted.of_environment {name : String} {ended : StepEnd Unit} {r r₁ r₂ r' : Registry}
    {inner step : List (Moment services Registry)}
    (noted : Noted Registry.environment name ended r r₁ inner r₂ r' step) :
    r₁ = r ∧ r' = r₂ := by
  obtain ⟨started, finished⟩ := noted
  exact ⟨started, finished⟩

namespace Disk

/-- The ways in which an unused disk is passed: what is done in its step, and how that ends. -/
inductive Passes (r : Registry) (d : DiskRecord) :
    List (Moment services Registry) → StepEnd Unit → Prop
  /-- The cloud deletes the disk. -/
  | deleted :
      Passes r d
        [⟨r, .cloud (.deleteDisk d.cid), Except.ok (ε := CloudError) ()⟩,
          ⟨r, .registry (.delete d.id), Except.ok (ε := RegistryError) ()⟩]
        (.finished ())
  /-- The cloud has no such disk. -/
  | gone {e : CloudError} (gone : e.is .diskNotFound = true) :
      Passes r d
        [⟨r, .cloud (.deleteDisk d.cid), Except.error (α := Unit) e⟩,
          ⟨r, .warn "Disk already gone from the cloud" none, ()⟩,
          ⟨r, .registry (.delete d.id), Except.ok (ε := RegistryError) ()⟩]
        (.skipped e.message)

/-- The ways in which an unused disk ends a sweep: what is done in its step, and with what it
fails. -/
inductive Stops (r : Registry) (d : DiskRecord) :
    List (Moment services Registry) → Failure → Prop
  /-- The cloud does not delete the disk. -/
  | refused {e : CloudError} (other : e.is .diskNotFound = false) :
      Stops r d [⟨r, .cloud (.deleteDisk d.cid), Except.error (α := Unit) e⟩] (.cloud e)
  /-- The cloud deletes the disk, and its record cannot be removed. -/
  | deleted {e : RegistryError} :
      Stops r d
        [⟨r, .cloud (.deleteDisk d.cid), Except.ok (ε := CloudError) ()⟩,
          ⟨r, .registry (.delete d.id), Except.error (α := Unit) e⟩]
        (.registry e)
  /-- The cloud has no such disk, and its record cannot be removed. -/
  | gone {e : CloudError} {e' : RegistryError} (gone : e.is .diskNotFound = true) :
      Stops r d
        [⟨r, .cloud (.deleteDisk d.cid), Except.error (α := Unit) e⟩,
          ⟨r, .warn "Disk already gone from the cloud" none, ()⟩,
          ⟨r, .registry (.delete d.id), Except.error (α := Unit) e'⟩]
        (.registry e')

variable {r r' : Registry} {d : DiskRecord} {ms : List (Moment services Registry)}
  {result : Except Failure Unit}

/-- A recorded disk is forgotten with one request to the registry. -/
theorem runs_forget
    (run : Action.Runs Registry.environment (ofRecord d).forget r ms result r') :
    (result = .ok () ∧ r' = r.delete d.id ∧
        ms = [⟨r, .registry (.delete d.id), Except.ok (ε := RegistryError) ()⟩]) ∨
      ∃ e : RegistryError, result = .error (.registry e) ∧ r' = r ∧
        ms = [⟨r, .registry (.delete d.id), Except.error (α := Unit) e⟩] := by
  obtain ⟨answer, rfl, rfl, asked⟩ := Action.runs_registry_iff.mp run
  have answered : r.Answers _ (.delete d.id) answer r' := asked
  cases answer with
  | ok _ => exact .inl ⟨rfl, answered.delete, rfl⟩
  | error e => exact .inr ⟨e, rfl, answered.eq_of_error, rfl⟩

/-- A disk that the cloud does not have is forgotten, and the error of the cloud is told. -/
theorem runs_forget_of_gone {e : CloudError}
    (run : Action.Runs Registry.environment
      (do
        Action.warn "Disk already gone from the cloud" none
        (ofRecord d).forget
        throw (.cloud e)) r ms result r') :
    (result = .error (.cloud e) ∧ r' = r.delete d.id ∧
        ms = [⟨r, .warn "Disk already gone from the cloud" none, ()⟩,
          ⟨r, .registry (.delete d.id), Except.ok (ε := RegistryError) ()⟩]) ∨
      ∃ e' : RegistryError, result = .error (.registry e') ∧ r' = r ∧
        ms = [⟨r, .warn "Disk already gone from the cloud" none, ()⟩,
          ⟨r, .registry (.delete d.id), Except.error (α := Unit) e'⟩] := by
  rcases Action.runs_bind_iff.mp run with ⟨_, _, warns⟩ | ⟨_, _, _, _, rfl, warns, later⟩
  · obtain ⟨failed, -⟩ := Action.runs_warn_iff.mp warns
    cases failed
  obtain ⟨-, rfl, warned⟩ := Action.runs_warn_iff.mp warns
  cases warned
  rcases Action.runs_bind_iff.mp later with ⟨_, rfl, forgets⟩ | ⟨_, _, _, _, rfl, forgets, thrown⟩
  · rcases runs_forget forgets with ⟨forgotten, -⟩ | ⟨e', failed, rfl, rfl⟩
    · cases forgotten
    · cases failed
      exact .inr ⟨e', rfl, rfl, rfl⟩
  · obtain ⟨rfl, rfl, rfl⟩ := Action.runs_throw_iff.mp thrown
    rcases runs_forget forgets with ⟨-, rfl, rfl⟩ | ⟨_, failed, -⟩
    · exact .inl ⟨rfl, rfl, rfl⟩
    · cases failed

/-- A recorded disk is deleted in one of the ways in which it is passed or ends a sweep. -/
theorem passes_or_stops
    (run : Action.Runs Registry.environment (ofRecord d).delete r ms result r') :
    (r' = r.delete d.id ∧ Passes r d ms (skipIfNotFound .diskNotFound result)) ∨
      ∃ f, skipIfNotFound .diskNotFound result = .failed f ∧ r' = r ∧ Stops r d ms f := by
  rcases Action.runs_bind_iff.mp run with ⟨_, _, asks⟩ | ⟨answer, _, _, _, rfl, asks, later⟩
  · obtain ⟨_, failed, -⟩ := Action.runs_lift_iff.mp asks
    cases failed
  obtain ⟨_, heq, asks⟩ := Action.runs_lift_iff.mp asks
  cases heq
  obtain ⟨rfl, asked⟩ := Program.runs_question_iff.mp asks
  cases asked
  cases answer with
  | ok _ =>
    rcases runs_forget later with ⟨rfl, rfl, rfl⟩ | ⟨e, rfl, rfl, rfl⟩
    · exact .inl ⟨rfl, .deleted⟩
    · exact .inr ⟨_, rfl, rfl, .deleted⟩
  | error e =>
    have ended : skipIfNotFound .diskNotFound (.error (.cloud e))
        = if e.is .diskNotFound then .skipped e.message else .failed (.cloud e) := rfl
    cases gone : e.is .diskNotFound with
    | false =>
      simp only [gone, Bool.false_eq_true, if_false] at later ended
      obtain ⟨rfl, rfl, rfl⟩ := Action.runs_throw_iff.mp later
      exact .inr ⟨_, ended, rfl, .refused gone⟩
    | true =>
      simp only [gone, if_true] at later ended
      rcases runs_forget_of_gone later with ⟨rfl, rfl, rfl⟩ | ⟨e', rfl, rfl, rfl⟩
      · rw [ended]
        exact .inl ⟨rfl, .gone gone⟩
      · exact .inr ⟨_, rfl, rfl, .gone gone⟩

/-- A disk that is passed counts as deleted. -/
theorem Passes.succeeds {ended : StepEnd Unit} (passes : Passes r d ms ended) :
    ended.result.map (fun _ => ()) = .ok () := by
  cases passes <;> rfl

end Disk

namespace Inventory

/-- The step of an unused disk. -/
def sweepStep (d : DiskRecord) : String := s!"Deleting unused disk '{d.cid.text}'"

/-- A sweep over records of unused disks passes some, each in a step of its own and with its record
removed, and ends with the step of the first that it keeps. -/
inductive Sweep : (r : Registry) → (passed kept : List DiskRecord) →
    List (Moment services Registry) → Except Failure Unit → (r' : Registry) → Prop
  | done {r : Registry} : Sweep r [] [] [] (.ok ()) r
  | stopped {r : Registry} {d : DiskRecord} {kept : List DiskRecord} {f : Failure}
      {step inner : List (Moment services Registry)}
      (noted : Noted Registry.environment (sweepStep d) (.failed f : StepEnd Unit) r r inner r r
        step)
      (stops : Disk.Stops r d inner f) : Sweep r [] (d :: kept) step (.error f) r
  | passed {r r' : Registry} {d : DiskRecord} {passed kept : List DiskRecord}
      {ended : StepEnd Unit} {step inner later : List (Moment services Registry)}
      {result : Except Failure Unit}
      (noted : Noted Registry.environment (sweepStep d) ended r r inner (r.delete d.id)
        (r.delete d.id) step)
      (passes : Disk.Passes r d inner ended)
      (sweep : Sweep (r.delete d.id) passed kept later result r') :
      Sweep r (d :: passed) kept (step ++ later) result r'

variable {r r' : Registry} {ms : List (Moment services Registry)} {result : Except Failure Unit}

/-- The step of an unused disk passes the disk, or it ends the sweep. -/
theorem step_of_runs {d : DiskRecord}
    (run : Action.Runs Registry.environment (deleteUnusedDisk (.ofRecord d)) r ms result r') :
    (result = .ok () ∧ r' = r.delete d.id ∧ ∃ inner ended,
        Noted Registry.environment (sweepStep d) ended r r inner r' r' ms ∧
          Disk.Passes r d inner ended) ∨
      ∃ f, result = .error f ∧ r' = r ∧ ∃ inner,
        Noted Registry.environment (sweepStep d) (.failed f : StepEnd Unit) r r inner r' r' ms ∧
          Disk.Stops r d inner f := by
  obtain ⟨r₀, _, inner, _, rfl, noted, deletes⟩ := Action.runs_deletionStep_iff.mp run
  obtain ⟨rfl, rfl⟩ := noted.of_environment
  rcases Disk.passes_or_stops deletes with ⟨removed, passes⟩ | ⟨f, ended, unchanged, stops⟩
  · exact .inl ⟨passes.succeeds, removed, inner, _, noted, passes⟩
  · rw [ended] at noted
    refine .inr ⟨f, ?_, unchanged, inner, noted, stops⟩
    rw [Action.deletionEnd, ended]
    rfl

/-- A sweep goes through its records in order. -/
theorem sweep_of_runs {records : List DiskRecord}
    (run : Action.Runs Registry.environment ((records.map Disk.ofRecord).forM deleteUnusedDisk)
      r ms result r') :
    ∃ passed kept, records = passed ++ kept ∧ Sweep r passed kept ms result r' := by
  induction records generalizing r ms with
  | nil =>
    obtain ⟨rfl, rfl, rfl⟩ := Action.runs_pure_iff.mp run
    exact ⟨[], [], rfl, .done⟩
  | cons d records ih =>
    rcases Action.runs_bind_iff.mp run with ⟨f, rfl, step⟩ | ⟨_, r₁, _, _, rfl, step, later⟩
    · rcases step_of_runs step with ⟨passed, -⟩ | ⟨_, failed, rfl, inner, noted, stops⟩
      · cases passed
      · cases failed
        exact ⟨[], d :: records, rfl, .stopped noted stops⟩
    · rcases step_of_runs step with ⟨-, rfl, inner, ended, noted, passes⟩ | ⟨_, failed, -⟩
      · obtain ⟨passed, kept, rfl, sweep⟩ := ih later
        exact ⟨d :: passed, kept, rfl, .passed noted passes sweep⟩
      · cases failed

namespace Sweep

variable {passed kept : List DiskRecord}

/-- A sweep removes the records of the disks that it passes, and changes nothing else. -/
theorem registry (sweep : Sweep r passed kept ms result r') : r' = r.without passed := by
  induction sweep with
  | done | stopped => rfl
  | passed _ _ _ ih => exact ih

/-- A sweep succeeds if it passes all disks. -/
theorem ok_iff (sweep : Sweep r passed kept ms result r') : result = .ok () ↔ kept = [] := by
  induction sweep with
  | done => exact iff_of_true rfl rfl
  | stopped => exact iff_of_false nofun (List.cons_ne_nil _ _)
  | passed _ _ _ ih => exact ih

end Sweep

/-- How a sweep fails that cannot read the registry: it asks nothing else. -/
inductive Unread (r : Registry) : List (Moment services Registry) → Failure → Prop
  | records {e : RegistryError} :
      Unread r [⟨r, .registry .all, Except.error (α := List DiskRecord) e⟩]
        (.context "Finding unused disks" (.context "Getting all disk records" (.registry e)))
  | current {records : List DiskRecord} {e : RegistryError} (listed : r.all = .ok records) :
      Unread r
        [⟨r, .registry .all, Except.ok (ε := RegistryError) records⟩,
          ⟨r, .registry .findCurrent, Except.error (α := Option DiskRecord) e⟩]
        (.context "Finding unused disks" (.context "Finding current disk record" (.registry e)))

/-- The records but the current one. -/
def unused (records : List DiskRecord) (current : Option DiskRecord) : List DiskRecord :=
  records.filter fun d => current.all fun c => c.id ≠ d.id

/-- A request to the registry in a context is answered, or it fails and changes nothing. -/
theorem request_of_runs {message : String} {request : RegistryRequest}
    {answer : Except Failure request.Value}
    (run : Action.Runs Registry.environment (Action.inContext message (Action.registry request))
      r ms answer r') :
    (∃ e : RegistryError, answer = .error (.context message (.registry e)) ∧ r' = r ∧
        ms = [⟨r, .registry request, (.error e : request.Answer)⟩]) ∨
      ∃ v, answer = .ok v ∧ ms = [⟨r, .registry request, (.ok v : request.Answer)⟩] ∧
        r.Answers (fun id => r.current ≠ some id.text) request (.ok v) r' := by
  obtain ⟨_, rfl, asks⟩ := Action.runs_inContext_iff.mp run
  obtain ⟨told, rfl, rfl, asked⟩ := Action.runs_registry_iff.mp asks
  have answered : r.Answers _ request told r' := asked
  cases told with
  | error e => exact .inl ⟨e, rfl, answered.eq_of_error, rfl⟩
  | ok v => exact .inr ⟨v, rfl, rfl, answered⟩

/-- The unused disks are found, unless the registry cannot be read. -/
theorem found_of_runs {answer : Except Failure (List Disk)}
    (run : Action.Runs Registry.environment (Action.inContext "Finding unused disks" findUnused)
      r ms answer r') :
    r' = r ∧ ((∃ f, answer = .error f ∧ Unread r ms f) ∨ ∃ records current,
      answer = .ok ((unused records current).map Disk.ofRecord) ∧ r.all = .ok records ∧
        r.findCurrent = .ok current ∧
        ms = [⟨r, .registry .all, Except.ok (ε := RegistryError) records⟩,
          ⟨r, .registry .findCurrent, Except.ok (ε := RegistryError) current⟩]) := by
  obtain ⟨found, rfl, finds⟩ := Action.runs_inContext_iff.mp run
  rcases Action.runs_bind_iff.mp finds with ⟨f, rfl, lists⟩ | ⟨records, _, _, _, rfl, lists, later⟩
  · rcases request_of_runs lists with ⟨e, failed, rfl, rfl⟩ | ⟨_, listed, -⟩
    · cases failed
      exact ⟨rfl, .inl ⟨_, rfl, .records⟩⟩
    · cases listed
  rcases request_of_runs lists with ⟨_, failed, -⟩ | ⟨_, heq, rfl, answered⟩
  · cases failed
  cases heq
  obtain ⟨rfl, listed⟩ := answered.all
  rcases Action.runs_bind_iff.mp later with ⟨f, rfl, reads⟩ | ⟨current, _, _, _, rfl, reads, last⟩
  · rcases request_of_runs reads with ⟨e, failed, rfl, rfl⟩ | ⟨_, read, -⟩
    · cases failed
      exact ⟨rfl, .inl ⟨_, rfl, .current listed⟩⟩
    · cases read
  rcases request_of_runs reads with ⟨_, failed, -⟩ | ⟨_, heq, rfl, answered⟩
  · cases failed
  cases heq
  obtain ⟨rfl, read⟩ := answered.findCurrent
  obtain ⟨rfl, rfl, rfl⟩ := Action.runs_pure_iff.mp last
  exact ⟨rfl, .inr ⟨records, current, rfl, listed, read, rfl⟩⟩

/-- What a sweep leaves that has passed some disks, if the registry finds their records again. -/
structure Settled (r : Registry) (records passed : List DiskRecord) (result : Except Failure Unit)
    (r' : Registry) : Prop where
  /-- All disks have their records but those that were passed. -/
  recorded_iff : ∀ d ∈ records, (∃ row ∈ r'.rows, row.record = .ok d) ↔ d ∉ passed
  pointer : r'.current = r.current
  /-- A sweep that succeeds leaves the current row, if there is one, and nothing else. -/
  left : result = .ok () → r'.rows = r.currentRow?.toList
  /-- Behind a sweep that succeeds another one only looks into the registry. -/
  again : result = .ok () → ∀ ms result' r'',
    Action.Runs Registry.environment deleteUnused r' ms result' r'' →
      r'' = r' ∧ ∀ m ∈ ms, m.question = .registry .all ∨ m.question = .registry .findCurrent

/-- What comes of a sweep that reads the registry: which records it found, which disks it passed and
which it kept, and what it left. -/
structure Swept (r : Registry) (records : List DiskRecord) (current : Option DiskRecord)
    (passed kept : List DiskRecord) (ms : List (Moment services Registry))
    (result : Except Failure Unit) (r' : Registry) : Prop where
  listed : r.all = .ok records
  found : r.findCurrent = .ok current
  whole : passed ++ kept = unused records current
  course : ∃ steps, Sweep r passed kept steps result r' ∧
    ms = [⟨r, .registry .all, Except.ok (ε := RegistryError) records⟩,
      ⟨r, .registry .findCurrent, Except.ok (ε := RegistryError) current⟩] ++ steps
  ok_iff : result = .ok () ↔ kept = []
  /-- Only rows of disks that were passed are gone. -/
  rows : r'.rows = r.rows.filter fun row => passed.all fun d => row.id ≠ some d.id.text
  /-- A disk that was passed has lost its record if the row has the text of its identifier. -/
  removed_iff : ∀ d ∈ passed, ∀ row ∈ r.rows, row.record = .ok d →
    (row ∉ r'.rows ↔ row.id = some d.id.text)
  recorded : ∀ d ∈ records, (∀ d' ∈ passed, d'.id ≠ d.id) → ∃ row ∈ r'.rows, row.record = .ok d
  currentRow : r'.currentRow? = r.currentRow?
  /-- A pointer that names no row may be cleared. -/
  pointer : r'.current = r.current ∨ r.currentRow? = none ∧ r'.current = none
  settled : r.Canonical → Settled r records passed result r'

/-- A sweep fails as it cannot read the registry, or it goes through the unused records. -/
theorem course_of_runs (run : Action.Runs Registry.environment deleteUnused r ms result r') :
    (r' = r ∧ ∃ f, result = .error f ∧ Unread r ms f) ∨
      ∃ records current passed kept steps, r.all = .ok records ∧ r.findCurrent = .ok current ∧
        passed ++ kept = unused records current ∧ Sweep r passed kept steps result r' ∧
        ms = [⟨r, .registry .all, Except.ok (ε := RegistryError) records⟩,
          ⟨r, .registry .findCurrent, Except.ok (ε := RegistryError) current⟩] ++ steps := by
  rcases Action.runs_bind_iff.mp run with ⟨f, rfl, finds⟩ | ⟨disks, _, _, _, rfl, finds, sweeps⟩
  · obtain ⟨unchanged, ⟨_, failed, unread⟩ | ⟨_, _, found, -⟩⟩ := found_of_runs finds
    · cases failed
      exact .inl ⟨unchanged, f, rfl, unread⟩
    · cases found
  · obtain ⟨rfl, ⟨_, failed, -⟩ | ⟨records, current, heq, listed, found, rfl⟩⟩ :=
      found_of_runs finds
    · cases failed
    · cases heq
      obtain ⟨passed, kept, whole, sweep⟩ := sweep_of_runs sweeps
      exact .inr ⟨records, current, passed, kept, _, listed, found, whole.symm, sweep, rfl⟩

/-- The current row is of no unused disk. -/
theorem id_ne_of_unused {records : List DiskRecord} {current : Option DiskRecord}
    (found : r.findCurrent = .ok current) :
    ∀ d ∈ unused records current, ∀ row, r.currentRow? = some row → row.id ≠ some d.id.text := by
  intro d mem row here written
  rcases Registry.findCurrent_eq_ok found with ⟨nowhere, -⟩ | ⟨now, c, isNow, rfl, readNow⟩
  · rw [nowhere] at here
    cases here
  · obtain rfl := Option.some.inj (here.symm.trans isNow)
    have other := (List.mem_filter.mp mem).2
    simp [DiskRow.id_of_record written readNow] at other

/-- The pointer names no unused disk. -/
theorem current_ne_of_unused (canonical : r.Canonical) {records : List DiskRecord}
    {current : Option DiskRecord} (listed : r.all = .ok records)
    (found : r.findCurrent = .ok current) :
    ∀ d ∈ unused records current, r.current ≠ some d.id.text := by
  intro d mem named
  cases now : r.currentRow? with
  | some row =>
    refine id_ne_of_unused found d mem row now ?_
    rw [← (Registry.of_currentRow? now).2, named]
  | none =>
    -- The pointer would lead to the row of the disk.
    obtain ⟨row, rowMem, read⟩ := Registry.row_of_all listed (List.mem_of_mem_filter mem)
    rw [Registry.currentRow?, named, Option.bind_some, List.find?_eq_none] at now
    exact now row rowMem (decide_eq_true (canonical.text row rowMem d read))

/-- Of the rows only the current one is of no unused disk. -/
theorem rows_without_unused (canonical : r.Canonical) {records : List DiskRecord}
    {current : Option DiskRecord} (listed : r.all = .ok records)
    (found : r.findCurrent = .ok current) :
    (r.without (unused records current)).rows = r.currentRow?.toList := by
  rw [Registry.rows_without]
  rcases Registry.findCurrent_eq_ok found with ⟨none, rfl⟩ | ⟨now, c, isNow, rfl, readNow⟩
  · rw [none]
    refine List.filter_eq_nil_iff.mpr fun row mem spared => ?_
    obtain ⟨d, here, read⟩ := Registry.record_of_all listed mem
    have all := List.all_eq_true.mp spared d (by simpa [unused] using here)
    exact of_decide_eq_true all (canonical.text row mem d read)
  · obtain ⟨nowMem, pointer⟩ := Registry.of_currentRow? isNow
    have text := canonical.text now nowMem c readNow
    have only := Registry.filter_id canonical.distinct c.id.text
    have isCurrent : r.currentRow? = r.rows.find? fun row => row.id = some c.id.text := by
      rw [Registry.currentRow?, pointer, text, Option.bind_some]
    rw [isCurrent, ← only]
    refine List.filter_congr fun row mem => ?_
    obtain ⟨d, here, read⟩ := Registry.record_of_all listed mem
    have mine := canonical.text row mem d read
    rw [Bool.eq_iff_iff, List.all_eq_true, decide_eq_true_iff]
    constructor
    · intro spared
      by_contra other
      have differs : c.id ≠ d.id := by
        intro same
        exact other (same ▸ mine)
      have isUnused : d ∈ unused records (some c) :=
        List.mem_filter.mpr ⟨here, by simpa using differs⟩
      exact of_decide_eq_true (spared d isUnused) mine
    · intro named d' isUnused
      obtain ⟨-, differs⟩ := List.mem_filter.mp isUnused
      refine decide_eq_true fun named' => ?_
      have same := RecordId.text_injective (Option.some.inj (named.symm.trans named'))
      simp [same] at differs

/-- Where there is no row but the current one no disk is unused. -/
theorem unused_eq_nil {records : List DiskRecord} {current : Option DiskRecord}
    (listed : r.all = .ok records) (found : r.findCurrent = .ok current)
    (alone : r.rows = r.currentRow?.toList) : unused records current = [] := by
  refine List.filter_eq_nil_iff.mpr fun d here other => ?_
  obtain ⟨row, mem, read⟩ := Registry.row_of_all listed here
  rw [alone, Option.mem_toList] at mem
  rcases Registry.findCurrent_eq_ok found with ⟨nowhere, -⟩ | ⟨now, c, isNow, rfl, readNow⟩
  · rw [nowhere] at mem
    cases mem
  · rw [isNow] at mem
    cases mem
    cases read.symm.trans readNow
    simp at other

/-- Where there is no row but the current one a sweep only looks into the registry. -/
theorem looks_of_runs (alone : r.rows = r.currentRow?.toList)
    (run : Action.Runs Registry.environment deleteUnused r ms result r') :
    r' = r ∧ ∀ m ∈ ms, m.question = .registry .all ∨ m.question = .registry .findCurrent := by
  rcases course_of_runs run with
    ⟨unchanged, f, -, unread⟩ | ⟨records, current, passed, kept, steps, listed, found, whole, sweep,
      rfl⟩
  · refine ⟨unchanged, ?_⟩
    cases unread with
    | records => exact List.forall_mem_singleton.mpr (.inl rfl)
    | current => exact List.forall_mem_cons.mpr ⟨.inl rfl, List.forall_mem_singleton.mpr (.inr rfl)⟩
  · rw [unused_eq_nil listed found alone, List.append_eq_nil_iff] at whole
    obtain ⟨rfl, rfl⟩ := whole
    cases sweep
    exact ⟨rfl, List.forall_mem_cons.mpr ⟨.inl rfl, List.forall_mem_singleton.mpr (.inr rfl)⟩⟩

namespace Sweep

variable {records passed kept : List DiskRecord} {current : Option DiskRecord}

/-- Disks keep their records that have another identifier than all that a sweep passed. -/
theorem recorded (sweep : Sweep r passed kept ms result r') (listed : r.all = .ok records) :
    ∀ d ∈ records, (∀ d' ∈ passed, d'.id ≠ d.id) → ∃ row ∈ r'.rows, row.record = .ok d := by
  intro d mem other
  obtain ⟨row, here, read⟩ := Registry.row_of_all listed mem
  rw [sweep.registry, Registry.rows_without]
  refine ⟨row, List.mem_filter.mpr ⟨here, List.all_eq_true.mpr fun d' isPassed => ?_⟩, read⟩
  exact decide_eq_true fun written => other d' isPassed (DiskRow.id_of_record written read).symm

/-- A disk that is passed loses its record exactly if the row has the text of its identifier. -/
theorem removed_iff (sweep : Sweep r passed kept ms result r') :
    ∀ d ∈ passed, ∀ row ∈ r.rows, row.record = .ok d →
      (row ∉ r'.rows ↔ row.id = some d.id.text) := by
  intro d isPassed row here read
  rw [sweep.registry, Registry.rows_without, List.mem_filter]
  constructor
  · intro removed
    by_contra other
    refine removed ⟨here, List.all_eq_true.mpr fun d' _ => decide_eq_true fun written => other ?_⟩
    exact DiskRow.id_of_record written read ▸ written
  · rintro written ⟨-, spared⟩
    exact of_decide_eq_true (List.all_eq_true.mp spared d isPassed) written

/-- A sweep leaves the current row. -/
theorem currentRow (sweep : Sweep r passed kept ms result r')
    (found : r.findCurrent = .ok current) (whole : passed ++ kept = unused records current) :
    r'.currentRow? = r.currentRow? := by
  rw [sweep.registry]
  exact Registry.currentRow?_without fun d mem =>
    id_ne_of_unused found d (whole ▸ List.mem_append_left kept mem)

/-- A sweep leaves the pointer if it names a row. -/
theorem pointer (sweep : Sweep r passed kept ms result r')
    (found : r.findCurrent = .ok current) (whole : passed ++ kept = unused records current) :
    r'.current = r.current ∨ r.currentRow? = none ∧ r'.current = none := by
  have same := sweep.currentRow found whole
  cases now : r.currentRow? with
  | some row =>
    rw [now] at same
    exact .inl ((Registry.of_currentRow? same).2.trans (Registry.of_currentRow? now).2.symm)
  | none =>
    rw [sweep.registry]
    exact (Registry.current_without_eq passed).imp_right fun cleared => ⟨rfl, cleared⟩

/-- The registry has no record of the disks that a sweep passed, and those of all others. -/
theorem settled (sweep : Sweep r passed kept ms result r') (listed : r.all = .ok records)
    (found : r.findCurrent = .ok current) (whole : passed ++ kept = unused records current)
    (canonical : r.Canonical) : Settled r records passed result r' := by
  have currentRow := sweep.currentRow found whole
  have isUnused : ∀ d ∈ passed, d ∈ unused records current := fun d mem =>
    whole ▸ List.mem_append_left kept mem
  have spared : ∀ d ∈ passed, r.current ≠ some d.id.text := fun d mem =>
    current_ne_of_unused canonical listed found d (isUnused d mem)
  have left (succeeded : result = .ok ()) : r'.rows = r.currentRow?.toList := by
    obtain rfl := sweep.ok_iff.mp succeeded
    rw [sweep.registry, ← rows_without_unused canonical listed found, ← whole, List.append_nil]
  refine ⟨fun d mem => ⟨?_, fun isKept => ?_⟩, ?_, left,
    fun succeeded _ _ _ later => looks_of_runs (currentRow.symm ▸ left succeeded) later⟩
  · rintro ⟨row, remains, read⟩ isPassed
    rw [sweep.registry, Registry.rows_without] at remains
    obtain ⟨here, others⟩ := List.mem_filter.mp remains
    have other := of_decide_eq_true (List.all_eq_true.mp others d isPassed)
    exact other (canonical.text row here d read)
  · refine sweep.recorded listed d mem fun d' isPassed ids => isKept ?_
    have mem' : d' ∈ records := List.mem_of_mem_filter (isUnused d' isPassed)
    have texts : d'.id.text = d.id.text := congrArg RecordId.text ids
    rwa [← List.inj_on_of_nodup_map (canonical.nodup_of_all listed) mem' mem texts]
  · rw [sweep.registry]
    exact Registry.current_without spared

end Sweep

/-- A sweep deletes the unused disks in the order of their listing, up to the first that it has to
keep, and it leaves no record of those before that and the records of all others. -/
theorem swept_of_runs (run : Action.Runs Registry.environment deleteUnused r ms result r') :
    (r' = r ∧ ∃ f, result = .error f ∧ Unread r ms f) ∨
      ∃ records current passed kept, Swept r records current passed kept ms result r' := by
  rcases course_of_runs run with
    unread | ⟨records, current, passed, kept, steps, listed, found, whole, sweep, here⟩
  · exact .inl unread
  have rows := Registry.rows_without (r := r) passed
  rw [← sweep.registry] at rows
  exact .inr ⟨records, current, passed, kept, listed, found, whole, ⟨steps, sweep, here⟩,
    sweep.ok_iff, rows, sweep.removed_iff, sweep.recorded listed, sweep.currentRow found whole,
    sweep.pointer found whole, sweep.settled listed found whole⟩

/-- Disks that were made one after the other. -/
def sampleRecords : List DiskRecord := [
  ⟨.ofNat 1, ⟨"old", by decide⟩, 10, [], ⟨1, 0⟩⟩,
  ⟨.ofNat 2, ⟨"current", by decide⟩, 10, [], ⟨2, 0⟩⟩,
  ⟨.ofNat 3, ⟨"vanished", by decide⟩, 10, [], ⟨3, 0⟩⟩,
  ⟨.ofNat 4, ⟨"stuck", by decide⟩, 10, [], ⟨4, 0⟩⟩,
  ⟨.ofNat 5, ⟨"young", by decide⟩, 10, [], ⟨5, 0⟩⟩]

/-- A registry of these disks, of which the second is the current one. -/
def sampleRegistry : Registry where
  rows := sampleRecords.map Registry.rowOf
  current := some (RecordId.ofNat 2).text

theorem canonical_sampleRegistry : sampleRegistry.Canonical := by
  refine Registry.Sound.canonical ⟨fun row mem => ?_, by decide +kernel, by decide +kernel⟩
  obtain ⟨record, -, rfl⟩ := List.mem_map.mp mem
  exact ⟨record, rfl⟩

theorem all_sampleRegistry : sampleRegistry.all = .ok sampleRecords := by
  have sorted : sampleRegistry.sortedRows = sampleRecords.map Registry.rowOf :=
    List.mergeSort_of_pairwise (by decide +kernel)
  have read : ∀ record ∈ sampleRecords, (DiskRow.typed ∘ Registry.rowOf) record >>=
      DiskRow.Typed.record = .ok (id record) := by
    simp only [sampleRecords, List.forall_mem_cons]
    refine ⟨?_, ?_, ?_, ?_, ?_, List.forall_mem_nil _⟩ <;>
      exact Registry.record_rowOf_eq (by with_unfolding_all rfl) (by with_unfolding_all rfl)
  unfold Registry.all
  rw [sorted, List.mapM_map, Result.mapM_mapM_eq_ok read, List.map_id]

/-- The listing of one registry; no other can be listed. -/
def sampleListing (known : Registry) (records : List DiskRecord) (r : Registry) :
    Except RegistryError (List DiskRecord) :=
  if r = known then .ok records else .error (.invalid "unknown")

/-- Services around one registry whose cloud does not have one disk, and does not delete another. -/
def sampleServices (known : Registry) (records : List DiskRecord) :
    Program.Handler services Registry
  | .registry .all, r => (sampleListing known records r, r)
  | .registry request, r => Registry.serve (.ofNat 6) ⟨6, 0⟩ request r
  | .cloud (.deleteDisk cid), r =>
    (if cid.text = "vanished" then Except.error (.rejected "delete_disk" .diskNotFound "gone" false)
      else if cid.text = "stuck" then Except.error (.exec "delete_disk" "timed out")
      else Except.ok (ε := CloudError) (), r)
  | q, r => (q.plainAnswer, r)

theorem environment_sampleServices {known : Registry} {records : List DiskRecord}
    (listed : known.all = .ok records) (fresh : known.current ≠ some (RecordId.ofNat 6).text)
    (r : Registry) (q : ServiceQuestion) :
    Registry.environment r q (sampleServices known records q r).1
      (sampleServices known records q r).2 := by
  cases q with
  | registry request =>
    cases request with
    | all =>
      show Registry.environment r (.registry .all) (sampleListing known records r) r
      unfold sampleListing
      split
      · rename_i here
        subst here
        exact .inr ⟨.ofNat 6, ⟨6, 0⟩, fresh, congrArg (·, _) listed⟩
      · exact .inl ⟨_, rfl, rfl⟩
    | _ => exact Registry.environment_serve (.ofNat 6) ⟨6, 0⟩ r _
  | cloud request => cases request <;> rfl
  | _ => rfl

/-- What a sweep asks there, how it ends and what it leaves. -/
def sampleMoments (known : Registry) (records : List DiskRecord) : List (Moment services Registry) :=
  deleteUnused.run.trace (sampleServices known records) known

@[inherit_doc sampleMoments]
def sampleEnd (known : Registry) (records : List DiskRecord) : Except Failure Unit × Registry :=
  deleteUnused.run.run (sampleServices known records) known

theorem runs_sampleServices {known : Registry} {records : List DiskRecord}
    (listed : known.all = .ok records) (fresh : known.current ≠ some (RecordId.ofNat 6).text) :
    Action.Runs Registry.environment deleteUnused known (sampleMoments known records)
      (sampleEnd known records).1 (sampleEnd known records).2 :=
  .of_run _ (environment_sampleServices listed fresh) deleteUnused.run known

theorem swept_of_runs_sample :
    let moments := sampleMoments sampleRegistry sampleRecords
    let (result, r') := sampleEnd sampleRegistry sampleRecords
    sampleRegistry.Canonical ∧ result.isOk = false ∧
      r'.rows.map DiskRow.cid = ["current", "stuck", "young"] ∧
      ((r' = sampleRegistry ∧ ∃ f, result = .error f ∧ Unread sampleRegistry moments f) ∨
        ∃ records current passed kept,
          Swept sampleRegistry records current passed kept moments result r') :=
  ⟨canonical_sampleRegistry, by decide +kernel, by decide +kernel,
    swept_of_runs (runs_sampleServices all_sampleRegistry (by decide +kernel))⟩

/-! ## Identifiers that are written otherwise -/

/-- A registry in which somebody else wrote an identifier with a small letter. -/
def foreignRegistry : Registry where
  rows := [⟨some "disk_0000000000000000000000000a", "old", .integer 10, "{}", .integer 0⟩]

/-- What its row reads as. -/
def foreignRecord : DiskRecord := ⟨.ofNat 10, ⟨"old", by decide⟩, 10, [], ⟨0, 0⟩⟩

theorem all_foreignRegistry : foreignRegistry.all = .ok [foreignRecord] := by
  have sorted : foreignRegistry.sortedRows = foreignRegistry.rows :=
    List.mergeSort_of_pairwise (List.pairwise_singleton _ _)
  unfold Registry.all
  rw [sorted]
  with_unfolding_all rfl

/-- There is no current disk, and a sweep deletes the disk of that row and succeeds. The row is still
there afterwards, with its record. -/
theorem passed_disk_recorded :
    foreignRegistry.all = .ok [foreignRecord] ∧ foreignRegistry.findCurrent = .ok none ∧
      ∃ ms, Action.Runs Registry.environment deleteUnused foreignRegistry ms (.ok ())
          foreignRegistry ∧
        ⟨foreignRegistry, .cloud (.deleteDisk foreignRecord.cid),
          Except.ok (ε := CloudError) ()⟩ ∈ ms := by
  have ended : sampleEnd foreignRegistry [foreignRecord] = (.ok (), foreignRegistry) := by
    with_unfolding_all rfl
  have deleted : (sampleMoments foreignRegistry [foreignRecord])[3]? =
      some ⟨foreignRegistry, .cloud (.deleteDisk foreignRecord.cid),
        Except.ok (ε := CloudError) ()⟩ := by
    with_unfolding_all rfl
  have run := runs_sampleServices all_foreignRegistry (by decide +kernel)
  rw [ended] at run
  exact ⟨all_foreignRegistry, rfl, _, run, List.mem_of_getElem? deleted⟩

end Inventory

end VmDeploy
