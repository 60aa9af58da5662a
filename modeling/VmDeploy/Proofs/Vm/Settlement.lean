import VmDeploy.Proofs.Vm.Atomicity

/-!
# Convergence that succeeds

A call of `AgentVm.updateDisks` that succeeds leaves the registry settled on a disk: the
current record is that of the disk that was returned, and it is as the pool wants it
(`Registry.Settled`). It does not matter which plan was followed, or what failed before.

A settled registry is a fixed point. A further call with the same pool, if nothing fails in
it, attaches and mounts that disk, marks it once more and leaves the registry as it was
(`reattaches_iff`).

Behind a plan with a new disk the next call does not see the record that was saved, but what
is read from its row. So the properties of the pool have to be read back from their text, and
the clock has to show a time that the calendar has.
-/

set_option autoImplicit false

namespace VmDeploy

/-- A disk stays if it has the size and the properties that are wanted. -/
theorem Disk.needsMigration_eq_false_iff {d : Disk} {size : UInt64} {properties : CloudProperties} :
    d.needsMigration size properties = false ↔
      d.record.size = size ∧ Json.sameFields d.record.cloudProperties properties = true := by
  simp [needsMigration]

/-- Whether a record that was saved has a time that the calendar has. Clocks show no other. -/
def Exchange.timely {σ : Type} : Exchange σ → Bool
  | .registry _ (.save _ _ _) (.ok record) =>
    (Timestamp.ofMillis? (DiskRecord.createdAt record).toMillis).isSome
  | _ => true

namespace Registry

variable {r r' : Registry}

/-- The current record is as a pool wants it. -/
structure Settled (r : Registry) (pool : DiskPool) (record : DiskRecord) : Prop where
  current : r.findCurrent = .ok (some record)
  size : record.size = pool.diskSize
  properties : Json.sameFields record.cloudProperties pool.cloudProperties = true

/-- The pointer names the current record. -/
theorem Sound.current_of_findCurrent (sound : r.Sound) {record : DiskRecord}
    (found : r.findCurrent = .ok (some record)) :
    ∃ row ∈ r.rows, row.id = some record.id.text ∧ row.record = .ok record ∧
      r.current = some record.id.text := by
  rcases findCurrent_eq_ok found with ⟨-, none⟩ | ⟨row, _, here, heq, read⟩
  · cases none
  · cases heq
    obtain ⟨mem, pointer⟩ := of_currentRow? here
    have named := sound.id_of_record mem read
    exact ⟨row, mem, named, read, pointer.trans named⟩

/-- A disk that is made the current one is found by the pointer. -/
theorem Sound.findCurrent_of_updateCurrent (sound : r.Sound) {id : RecordId} {row : DiskRow}
    (mem : row ∈ r.rows) (named : row.id = some id.text) (done : r.updateCurrent id = .ok r') :
    r'.findCurrent = row.record.map some := by
  obtain ⟨⟨here, isHere, same⟩, rfl⟩ := updateCurrent_eq_ok done
  have found : r.rows.find? (fun row => decide (row.id = some id.text)) = some row := by
    cases h : r.rows.find? (fun row => decide (row.id = some id.text)) with
    | none => exact absurd same (by simpa using List.find?_eq_none.mp h here isHere)
    | some other =>
      have otherNamed : other.id = some id.text := by simpa using List.find?_some h
      rw [sound.eq_of_id (List.mem_of_find?_eq_some h) mem (otherNamed.trans named.symm)]
  simp [Registry.findCurrent, currentRow?, found]

/-- The current disk of a settled registry stays. -/
theorem Settled.stays {pool : DiskPool} {record : DiskRecord} (settled : r.Settled pool record) :
    (Disk.ofRecord record).needsMigration pool.diskSize pool.cloudProperties = false :=
  Disk.needsMigration_eq_false_iff.mpr ⟨settled.size, settled.properties⟩

/-- To mark the current disk once more changes nothing. -/
theorem Sound.updateCurrent_self (sound : r.Sound) {record : DiskRecord}
    (found : r.findCurrent = .ok (some record)) : r.updateCurrent record.id = .ok r := by
  obtain ⟨row, mem, named, -, pointer⟩ := sound.current_of_findCurrent found
  have recorded : r.rows.any (fun row => decide (row.id = some record.id.text)) = true :=
    List.any_eq_true.mpr ⟨row, mem, by simpa using named⟩
  rw [updateCurrent, if_pos recorded, ← pointer]

/-- Some identifier can be minted. -/
theorem exists_fresh (r : Registry) : ∃ id : RecordId, r.current ≠ some id.text := by
  by_cases zero : r.current = some (RecordId.ofNat 0).text
  · refine ⟨.ofNat 1, ?_⟩
    rw [zero]
    intro same
    exact absurd (RecordId.text_injective (Option.some.inj same)) (by decide)
  · exact ⟨.ofNat 0, zero⟩

/-- An action that is to ask nothing of the registry leaves it. -/
theorem eq_of_adheres {α : Type} {plan : List ServiceQuestion} {x : Action α}
    (adheres : Adheres environment plan x) (absent : ∀ request, .registry request ∉ plan)
    {calls : List (Exchange Registry)} {result : Except Failure α}
    (run : Performs environment x.run r calls result r') : r' = r := by
  refine Performs.related (R := fun r r' => r' = r) environment_quiet (fun _ => rfl)
    (fun first second => second.trans first) run ?_
  intro c mem r₁ leads
  have planned := (adheres run).mem_plan mem
  cases c with
  | cloud _ _ _ | agent _ _ _ _ => exact leads
  | registry _ request _ => exact absurd planned (absent request)

end Registry

namespace AgentVm

open Registry (sampleDisk)

variable {vm : AgentVm} {pool : DiskPool} {r r' : Registry} {calls : List (Exchange Registry)}
  {disk : Disk} {disks : List Disk}

/-- A disk that was saved for a pool: its row is there, and it can be read back. -/
def SavedFor (pool : DiskPool) (r : Registry) (disk : Disk) : Prop :=
  ∃ record, disk = .ofRecord record ∧ Registry.rowOf record ∈ r.rows ∧
    record.size = pool.diskSize ∧ record.cloudProperties = pool.cloudProperties ∧
    (Timestamp.ofMillis? record.createdAt.toMillis).isSome = true

/-- A disk that is made is saved. -/
theorem savedFor_of_createDiskStep
    (run : Performs Registry.environment (vm.createDiskStep pool).run r calls (.ok disk) r')
    (timely : ∀ c ∈ calls, c.timely = true) : SavedFor pool r' disk := by
  have quiet := Registry.environment_quiet
  cases Inventory.creates_of_performs quiet ((Performs.run_step_iff quiet).mp run) with
  | recorded made saved =>
    obtain ⟨id, now, _, saved⟩ := Registry.Answers.save saved
    obtain ⟨rfl, rfl, -⟩ := Registry.save_eq_ok saved
    refine ⟨_, rfl, by simp, rfl, rfl, ?_⟩
    exact timely _ (List.mem_cons_of_mem _ List.mem_cons_self)

/-- What a disk is that was brought into the VM: the current one, which stays and leaves the
registry alone, or a new one that was saved for the pool. -/
theorem convergeDisk_eq_ok {current : Option Disk}
    (run : Performs Registry.environment (vm.convergeDisk pool current).run r calls (.ok disk) r')
    (timely : ∀ c ∈ calls, c.timely = true) :
    (current = some disk ∧ disk.needsMigration pool.diskSize pool.cloudProperties = false ∧
      r' = r) ∨ SavedFor pool r' disk := by
  have quiet := Registry.environment_quiet
  have attached {disk : Disk} {r r' : Registry} {calls : List (Exchange Registry)} {u : Unit}
      (run : Performs Registry.environment (vm.attachDiskStep disk).run r calls (.ok u) r') :
      r' = r :=
    Registry.eq_of_adheres (attachDiskStep_adheres quiet) (by simp [attachPlan]) run
  cases current with
  | none =>
    simp only [convergeDisk, Performs.run_bind_ok_iff, Performs.run_pure_iff] at run
    obtain ⟨new, r₁, made, _, rfl, creates, _, r₂, _, _, rfl, attaches, rfl, heq, rfl⟩ := run
    cases heq
    rw [attached attaches]
    exact .inr (savedFor_of_createDiskStep creates fun c mem => timely c (by simp [mem]))
  | some old =>
    cases differs : old.needsMigration pool.diskSize pool.cloudProperties with
    | false =>
      simp only [convergeDisk, differs, Bool.false_eq_true, if_false, Performs.run_bind_ok_iff,
        Performs.run_pure_iff] at run
      obtain ⟨_, _, _, _, rfl, attaches, rfl, heq, rfl⟩ := run
      cases heq
      exact .inl ⟨rfl, differs, attached attaches⟩
    | true =>
      simp only [convergeDisk, differs, if_true, Performs.run_bind_ok_iff,
        Performs.run_pure_iff] at run
      obtain ⟨new, r₁, made, _, rfl, creates, _, r₂, _, _, rfl, attaches, _, r₃, _, _, rfl, copies,
        _, r₄, _, _, rfl, detaches, rfl, heq, rfl⟩ := run
      cases heq
      rw [Registry.eq_of_adheres (detachDiskStep_adheres quiet) (by simp [detachPlan]) detaches,
        Registry.eq_of_adheres (migrateDiskStep_adheres quiet) (by simp [copyPlan]) copies,
        attached attaches]
      exact .inr (savedFor_of_createDiskStep creates fun c mem => timely c (by simp [mem]))

/-- The parts of a call of `updateDisks` that succeeds. -/
theorem updateDisks_eq_ok (size : pool.diskSize ≠ 0)
    (run : Performs Registry.environment (vm.updateDisks pool).run r calls (.ok disks) r') :
    ∃ current disk r₁ middle, disks = [disk] ∧ r.findCurrent = .ok current ∧
      calls = .registry r .findCurrent (.ok current) :: middle ++
        [.registry r₁ (.updateCurrent disk.record.id) (.ok ())] ∧
      Performs Registry.environment (vm.convergeDisk pool (current.map .ofRecord)).run r middle
        (.ok disk) r₁ ∧
      r₁.updateCurrent disk.record.id = .ok r' := by
  simp only [updateDisks, size, if_false, Inventory.findCurrent, bind_assoc, pure_bind,
    Performs.run_bind_ok_iff, Performs.run_pure_iff] at run
  obtain ⟨current, _, _, _, rfl, reads, disk, r₁, middle, _, rfl, converges, _, _, _, _, rfl, marks,
    rfl, heq, rfl⟩ := run
  cases heq
  obtain ⟨rfl, found⟩ := Performs.run_registry_ok_iff.mp (Performs.run_inContext_ok_iff.mp reads)
  obtain ⟨rfl, marked⟩ := Performs.run_registry_ok_iff.mp (Performs.run_inContext_ok_iff.mp marks)
  obtain ⟨rfl, found⟩ := Registry.Answers.findCurrent found
  refine ⟨current, disk, r₁, middle, rfl, found, by simp, converges, ?_⟩
  exact Registry.Answers.updateCurrent marked

/-- A disk that was saved for a pool settles the registry when it is made the current one. -/
theorem SavedFor.settled (saved : SavedFor pool r disk) (sound : r.Sound)
    (readable : pool.cloudProperties.readsBack = true)
    (marked : r.updateCurrent disk.record.id = .ok r') :
    ∃ record, record.id = disk.record.id ∧ record.cid = disk.cid ∧ r'.Settled pool record := by
  obtain ⟨record, rfl, mem, hsize, hproperties, timely⟩ := saved
  rw [← hproperties] at readable
  obtain ⟨read, isRead, same⟩ := Registry.record_rowOf readable timely
  refine ⟨read, same.id, same.cid, ?_, same.size.trans hsize, hproperties ▸ same.properties⟩
  rw [sound.findCurrent_of_updateCurrent mem rfl marked, isRead]
  rfl

/-- A call that succeeds settles the registry on the disk that it returns. -/
theorem settled_of_performs (reachable : r.Reachable) (size : pool.diskSize ≠ 0)
    (readable : pool.cloudProperties.readsBack = true) (timely : ∀ c ∈ calls, c.timely = true)
    (run : Performs Registry.environment (vm.updateDisks pool).run r calls (.ok disks) r') :
    ∃ disk record, disks = [disk] ∧ record.id = disk.record.id ∧ record.cid = disk.cid ∧
      r'.Settled pool record := by
  obtain ⟨current, disk, r₁, middle, rfl, found, rfl, converges, marked⟩ :=
    updateDisks_eq_ok size run
  rcases convergeDisk_eq_ok converges fun c mem => timely c (by simp [mem]) with
    ⟨isCurrent, stays, rfl⟩ | saved
  · obtain ⟨record, rfl, rfl⟩ := Option.map_eq_some_iff.mp isCurrent
    obtain ⟨hsize, hproperties⟩ := Disk.needsMigration_eq_false_iff.mp stays
    obtain ⟨row, mem, named, read, -⟩ := reachable.sound.current_of_findCurrent found
    refine ⟨_, record, rfl, rfl, rfl, ?_, hsize, hproperties⟩
    rw [reachable.sound.findCurrent_of_updateCurrent mem named marked, read]
    rfl
  · have sound := (Registry.reachable_of_performs converges reachable).sound
    obtain ⟨record, hid, hcid, settled⟩ := saved.settled sound readable marked
    exact ⟨disk, record, rfl, hid, hcid, settled⟩

/-! ## Again -/

/-- The calls that attach the current disk again. -/
def reattachment (vm : AgentVm) (r : Registry) (record : DiskRecord) : List (Exchange Registry) :=
  [.registry r .findCurrent (.ok (some record)),
    .cloud r (.attachDisk vm.cid record.cid) (.ok ()),
    .agent r vm.agent (.mountDisk record.cid) (.ok ()),
    .registry r (.updateCurrent record.id) (.ok ())]

/-- Attaching a disk succeeds with two calls and leaves the registry. -/
theorem attachDiskStep_ok_iff {u : Unit} :
    Performs Registry.environment (vm.attachDiskStep disk).run r calls (.ok u) r' ↔
      calls = [.cloud r (.attachDisk vm.cid disk.cid) (.ok ()),
        .agent r vm.agent (.mountDisk disk.cid) (.ok ())] ∧ r' = r := by
  rw [attachDiskStep, Performs.run_step_iff Registry.environment_quiet, attachDisk,
    Performs.run_bind_ok_iff]
  constructor
  · rintro ⟨_, _, _, _, rfl, attaches, mounts⟩
    obtain ⟨rfl, here⟩ := Performs.run_cloud_ok_iff.mp (Performs.run_inContext_ok_iff.mp attaches)
    obtain ⟨rfl, there⟩ := Performs.run_agent_ok_iff.mp (Performs.run_inContext_ok_iff.mp mounts)
    cases here
    cases there
    exact ⟨rfl, rfl⟩
  · rintro ⟨rfl, rfl⟩
    exact ⟨(), _, [_], [_], rfl,
      Performs.run_inContext_ok_iff.mpr (Performs.run_cloud_ok_iff.mpr ⟨rfl, rfl⟩),
      Performs.run_inContext_ok_iff.mpr (Performs.run_agent_ok_iff.mpr ⟨rfl, rfl⟩)⟩

/-- In a settled registry a call in which nothing fails is a reattachment. -/
theorem eq_reattachment_of_performs (sound : r.Sound) (size : pool.diskSize ≠ 0)
    {record : DiskRecord} (settled : r.Settled pool record) {result : Except Failure (List Disk)}
    (run : Performs Registry.environment (vm.updateDisks pool).run r calls result r')
    (answered : ∀ c ∈ calls, c.failed = false) :
    calls = vm.reattachment r record ∧ result = .ok [.ofRecord record] ∧ r' = r := by
  have succeeded := (course_of_performs size run).ok_of_answered answered
  cases result with
  | error f => cases succeeded
  | ok disks =>
    obtain ⟨current, disk, r₁, middle, rfl, found, rfl, converges, marked⟩ :=
      updateDisks_eq_ok size run
    rw [settled.current, Except.ok.injEq] at found
    cases found
    simp only [Option.map_some, convergeDisk, settled.stays, Bool.false_eq_true, if_false,
      Performs.run_bind_ok_iff, Performs.run_pure_iff, attachDiskStep_ok_iff] at converges
    obtain ⟨_, _, _, _, rfl, ⟨rfl, rfl⟩, rfl, heq, rfl⟩ := converges
    cases heq
    have same := (sound.updateCurrent_self settled.current).symm.trans marked
    cases same
    exact ⟨rfl, rfl, rfl⟩

/-- In a settled registry the current disk can be attached again. -/
theorem performs_reattachment (sound : r.Sound) (size : pool.diskSize ≠ 0) {record : DiskRecord}
    (settled : r.Settled pool record) :
    Performs Registry.environment (vm.updateDisks pool).run r (vm.reattachment r record)
      (.ok [.ofRecord record]) r := by
  obtain ⟨id, fresh⟩ := r.exists_fresh
  have found : Registry.environment r (.registry .findCurrent) (.ok (some record)) r :=
    .inr ⟨id, ⟨0, 0⟩, fresh, congrArg (·, r) settled.current⟩
  have marks := sound.updateCurrent_self settled.current
  have marked : Registry.environment r (.registry (.updateCurrent record.id)) (.ok ()) r :=
    .inr ⟨id, ⟨0, 0⟩, fresh, by simp only [Registry.answer, marks]⟩
  simp only [updateDisks, size, if_false, Inventory.findCurrent, bind_assoc, pure_bind,
    Performs.run_bind_ok_iff, Performs.run_pure_iff]
  refine ⟨some record, r, [_], _, rfl,
    Performs.run_inContext_ok_iff.mpr (Performs.run_registry_ok_iff.mpr ⟨rfl, found⟩),
    .ofRecord record, r, [_, _], _, rfl, ?_, (), r, [_], _, rfl,
    Performs.run_inContext_ok_iff.mpr (Performs.run_registry_ok_iff.mpr ⟨rfl, marked⟩),
    rfl, rfl, rfl⟩
  simp only [Option.map_some, convergeDisk, settled.stays, Bool.false_eq_true, if_false,
    Performs.run_bind_ok_iff, Performs.run_pure_iff, attachDiskStep_ok_iff]
  exact ⟨(), r, _, [], rfl, ⟨rfl, rfl⟩, rfl, trivial, rfl⟩

/-- In a settled registry a call in which nothing fails attaches the current disk again, returns
it and changes nothing. -/
theorem reattaches_iff (reachable : r.Reachable) (size : pool.diskSize ≠ 0) {record : DiskRecord}
    (settled : r.Settled pool record) {result : Except Failure (List Disk)} :
    (Performs Registry.environment (vm.updateDisks pool).run r calls result r' ∧
        ∀ c ∈ calls, c.failed = false) ↔
      calls = vm.reattachment r record ∧ result = .ok [.ofRecord record] ∧ r' = r := by
  constructor
  · rintro ⟨run, answered⟩
    exact eq_reattachment_of_performs reachable.sound size settled run answered
  · rintro ⟨rfl, rfl, rfl⟩
    refine ⟨performs_reattachment reachable.sound size settled, ?_⟩
    simp [reattachment, Exchange.failed, Except.isOk, Except.toBool]

/-- What holds behind a call that returned disks: it is one, its record is the current one and
as the pool wants it, and a further call with the pool in which nothing fails is a reattachment
of that disk, which returns it and leaves the registry. -/
def Settles (vm : AgentVm) (pool : DiskPool) (disks : List Disk) (r : Registry) : Prop :=
  ∃ disk record, disks = [disk] ∧ record.id = disk.record.id ∧ record.cid = disk.cid ∧
    r.Settled pool record ∧
    ∀ calls result r',
      (Performs Registry.environment (vm.updateDisks pool).run r calls result r' ∧
          ∀ c ∈ calls, c.failed = false) ↔
        calls = vm.reattachment r record ∧ result = .ok [.ofRecord record] ∧ r' = r

/-- A pool of size zero asks for nothing. With any other pool, a call that succeeds settles the
registry, whatever was done and whatever failed before. -/
theorem updateDisks_settles (vm : AgentVm) (pool : DiskPool) :
    (pool.diskSize = 0 → vm.updateDisks pool = pure []) ∧
      (pool.diskSize ≠ 0 → pool.cloudProperties.readsBack = true →
        ∀ (r r' : Registry) (calls : List (Exchange Registry)) (disks : List Disk), r.Reachable →
          (∀ c ∈ calls, c.timely = true) →
            Performs Registry.environment (vm.updateDisks pool).run r calls (.ok disks) r' →
              vm.Settles pool disks r') := by
  refine ⟨fun none => by simp only [updateDisks, none, if_true], ?_⟩
  intro size readable r r' calls disks reachable timely run
  obtain ⟨disk, record, one, hid, hcid, settled⟩ :=
    settled_of_performs reachable size readable timely run
  have later := Registry.reachable_of_performs run reachable
  exact ⟨disk, record, one, hid, hcid, settled, fun _ _ _ => reattaches_iff later size settled⟩

/-- A pool that the sample disk does not match, with properties. -/
def propertiedPool : DiskPool :=
  ⟨"pool", 20, [("encrypted", .bool true), ("iops", .number (.integer 3000)),
    ("type", .string "ssd")]⟩

/-- Services in which nothing fails. -/
def willingServices : Program.Handler services Registry :=
  Registry.attend ⟨"disk-3", by decide⟩ (.ofNat 2) fun _ => false

/-- The calls that replace the sample disk. -/
def replacementCalls : List (Exchange Registry) :=
  ServiceProgram.calls willingServices (sampleVm.updateDisks propertiedPool).run
    (.ofCurrent sampleDisk)

/-- How the replacement of the sample disk ends. -/
def replacementEnd : Except Failure (List Disk) × Registry :=
  (sampleVm.updateDisks propertiedPool).run.run willingServices (.ofCurrent sampleDisk)

theorem updateDisks_settles_replacement :
    sampleVm.updateDisks ⟨"none", 0, []⟩ = pure [] ∧
      propertiedPool.diskSize ≠ 0 ∧ propertiedPool.cloudProperties.readsBack = true ∧
      (Registry.ofCurrent sampleDisk).Reachable ∧ (∀ c ∈ replacementCalls, c.timely = true) ∧
      ∃ disks, replacementEnd.1 = .ok disks ∧
        sampleVm.Settles propertiedPool disks replacementEnd.2 := by
  have readable : propertiedPool.cloudProperties.readsBack = true := by decide +kernel
  have reachable : (Registry.ofCurrent sampleDisk).Reachable :=
    Registry.reachable_ofCurrent (by decide)
  have timely : ∀ c ∈ replacementCalls, c.timely = true :=
    List.all_eq_true.mp (by decide +kernel)
  obtain ⟨disks, ended⟩ : ∃ disks, replacementEnd.1 = .ok disks :=
    Result.eq_ok_of_isOk (by decide +kernel)
  have run : Performs Registry.environment (sampleVm.updateDisks propertiedPool).run
      (.ofCurrent sampleDisk) replacementCalls (.ok disks) replacementEnd.2 :=
    ended ▸ .of_run _ (Registry.environment_attend _ _ _) _ _
  refine ⟨(updateDisks_settles sampleVm ⟨"none", 0, []⟩).1 rfl, by decide, readable, reachable,
    timely, disks, ended, ?_⟩
  exact (updateDisks_settles sampleVm propertiedPool).2 (by decide) readable _ _ _ _ reachable
    timely run

end AgentVm

end VmDeploy
