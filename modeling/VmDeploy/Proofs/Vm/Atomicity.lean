import VmDeploy.Proofs.Vm.Convergence

/-!
# Convergence that fails

What a call of `AgentVm.updateDisks` leaves behind, wherever it fails: the records that were
there, and the pointer to the current disk, which moves with the last call or not at all.

That the pointer moves last has a price. Between the first call that takes the old disk away
and the last of the plan a failure leaves a current disk that the VM no longer has, and nowhere
else.
-/

set_option autoImplicit false

namespace VmDeploy

namespace AgentVm

open Registry (sampleDisk)

variable {vm : AgentVm} {pool : DiskPool} {current : Option Disk}
  {calls : List (Exchange Registry)} {c : Exchange Registry} {ok : Bool} {r r' : Registry}
  {result : Except Failure (List Disk)}

/-- A run that fails leaves the current row. -/
theorem currentRow?_of_error {f : Failure} (course : vm.Course pool r calls false)
    (run : Performs Registry.environment (vm.updateDisks pool).run r calls (.error f) r') :
    r'.currentRow? = r.currentRow? := by
  refine Performs.related (R := fun r r' => r'.currentRow? = r.currentRow?)
    Registry.environment_quiet (fun _ => rfl) (fun first second => second.trans first) run ?_
  intro c mem r₁ leads
  refine Registry.currentRow?_of_leads leads (course.question_ne_delete mem) ?_
  intro id asked
  cases answered : c.failed with
  | true => rfl
  | false => cases course.ok_of_marked mem asked answered

/-- A run leaves the rows that were there. -/
theorem rows_prefix_of_performs (course : vm.Course pool r calls ok)
    (run : Performs Registry.environment (vm.updateDisks pool).run r calls result r') :
    r.rows <+: r'.rows := by
  refine Performs.related (R := fun r r' => r.rows <+: r'.rows) Registry.environment_quiet
    (fun _ => List.prefix_rfl) (fun first second => first.trans second) run ?_
  intro c mem r₁ leads
  exact Registry.rows_prefix_of_leads leads (course.question_ne_delete mem)

/-- What holds of a call of `updateDisks`, wherever it fails. -/
structure Atomic (vm : AgentVm) (pool : DiskPool) (r : Registry)
    (calls : List (Exchange Registry)) (result : Except Failure (List Disk)) (r' : Registry) :
    Prop where
  /-- The plan for the current disk is followed up to the first call that fails. -/
  course : vm.Course pool r calls result.isOk
  /-- A disk is taken away only behind a successful copy of its content. -/
  copied : ∀ before c after, calls = before ++ c :: after → c.question.takenAway? ≠ none →
    ∃ m ∈ before, m.question = .agent vm.agent .migrateDisk ∧ m.failed = false
  /-- The current disk is another one only after success. -/
  pointer : r'.currentRow? ≠ r.currentRow? → ∃ disks, result = .ok disks
  /-- The records that were there are still there, as they were. -/
  rows : r.rows <+: r'.rows

/-- Every call of `updateDisks` with a pool that asks for a disk is atomic, whatever fails. -/
theorem updateDisks_atomic (size : pool.diskSize ≠ 0)
    (run : Performs Registry.environment (vm.updateDisks pool).run r calls result r') :
    vm.Atomic pool r calls result r' := by
  have course := course_of_performs size run
  refine ⟨course, fun _ _ _ => course.copied, ?_, rows_prefix_of_performs course run⟩
  intro moved
  cases result with
  | ok disks => exact ⟨disks, rfl⟩
  | error f => exact absurd (currentRow?_of_error course run) moved

/-- A VM, and a pool that the sample disk does not match. -/
def sampleVm : AgentVm := ⟨Registry.sampleVm, ⟨"agent", 0⟩⟩

@[inherit_doc sampleVm]
def samplePool : DiskPool := ⟨"pool", 20, []⟩

/-- Services with a cloud that detaches no disk. -/
def sampleServices : Program.Handler services Registry :=
  Registry.attend ⟨"disk-2", by decide⟩ (.ofNat 2) fun
    | .detachDisk _ _ => true
    | _ => false

/-- The calls that replace the disk, up to the detachment. -/
def sampleCalls : List (Exchange Registry) :=
  ServiceProgram.calls sampleServices (sampleVm.updateDisks samplePool).run (.ofCurrent sampleDisk)

/-- How the replacement of the disk ends. -/
def sampleEnd : Except Failure (List Disk) × Registry :=
  (sampleVm.updateDisks samplePool).run.run sampleServices (.ofCurrent sampleDisk)

theorem performs_sample :
    Performs Registry.environment (sampleVm.updateDisks samplePool).run (.ofCurrent sampleDisk)
      sampleCalls sampleEnd.1 sampleEnd.2 :=
  .of_run _ (Registry.environment_attend _ _ _) _ _

theorem updateDisks_atomic_sample :
    samplePool.diskSize ≠ 0 ∧
      sampleVm.Atomic samplePool (.ofCurrent sampleDisk) sampleCalls sampleEnd.1 sampleEnd.2 :=
  ⟨by decide, updateDisks_atomic (by decide) performs_sample⟩

/-! ## A current disk that the VM no longer has -/

/-- Calls that ended behind the copy of the content, when the old disk was to be detached or
the new one to be marked. -/
def FailedBehindCopy (vm : AgentVm) (old : DiskCid) (calls : List (Exchange Registry)) : Prop :=
  ∃ before last, calls = before ++ [last] ∧ last.failed = true ∧
    (∃ m ∈ before, m.question = .agent vm.agent .migrateDisk ∧ m.failed = false) ∧
    (last.question = .cloud (.detachDisk vm.cid old) ∨
      ∃ id, last.question = .registry (.updateCurrent id))

/-- The replacement of a disk that copied the content and did not end well ended when the old
disk was taken away or the new one marked. -/
theorem broken_behind_copy_of_follows {old new : Disk}
    (follows : Follows (vm.attachPlan new ++ vm.copyPlan ++ vm.detachPlan old ++ markPlan new)
      calls false) (mem : c ∈ calls) (asked : c.question = .agent vm.agent .migrateDisk)
    (answered : c.failed = false) :
    ∃ front rest, calls = front ++ rest ∧ c ∈ front ∧
      (∀ b ∈ front, b.question.takenAway? = none) ∧
      Follows (vm.detachPlan old ++ markPlan new) rest false := by
  rw [List.append_assoc _ (vm.detachPlan old)] at follows
  rcases Follows.append_iff.mp follows with ⟨-, broken⟩ | ⟨front, rest, rfl, done, later⟩
  · cases broken.carried_out (by simp [attachPlan]) mem asked answered
  refine ⟨front, rest, rfl, ?_, fun b early => takenAway?_attach_copy _ (done.mem_plan early),
    later⟩
  rcases List.mem_append.mp mem with early | late
  · exact early
  · have planned := later.mem_plan late
    rw [asked] at planned
    simp [detachPlan, markPlan] at planned

/-- Calls with a successful copy that did not end well ended when the old disk was taken away or
the new one marked. -/
theorem Converges.broken_behind_copy (converges : vm.Converges pool current calls false)
    (mem : c ∈ calls) (asked : c.question = .agent vm.agent .migrateDisk)
    (answered : c.failed = false) :
    ∃ old new front rest, current = some old ∧ calls = front ++ rest ∧ c ∈ front ∧
      (∀ b ∈ front, b.question.takenAway? = none) ∧
      Follows (vm.detachPlan old ++ markPlan new) rest false := by
  obtain ⟨before, after, split⟩ := List.append_of_mem mem
  cases current with
  | none =>
    rcases Makes.split converges split with making | ⟨new, _, _, -, -, follows⟩
    · rw [asked] at making
      exact making.elim
    · have planned := follows.mem_plan (List.mem_append_right _ List.mem_cons_self)
      rw [asked] at planned
      simp [attachPlan, markPlan] at planned
  | some old =>
    simp only [Converges] at converges
    split at converges
    · rcases Makes.split converges split with making | ⟨new, made, earlier, rfl, making, follows⟩
      · rw [asked] at making
        exact making.elim
      obtain ⟨front, rest, same, early, kept, later⟩ := broken_behind_copy_of_follows follows
        (List.mem_append_right _ List.mem_cons_self) asked answered
      refine ⟨old, new, made ++ front, rest, rfl, ?_, List.mem_append_right made early, ?_, later⟩
      · rw [split, List.append_assoc, same, List.append_assoc]
      · intro b mem
        rcases List.mem_append.mp mem with first | second
        · exact (making b first).takenAway?
        · exact kept b second
    · have planned := converges.mem_plan mem
      rw [asked] at planned
      simp [attachPlan, markPlan] at planned

/-- The same of a whole run, in which the old disk is the one that was read. -/
theorem Course.broken_behind_copy (course : vm.Course pool r calls false) (mem : c ∈ calls)
    (asked : c.question = .agent vm.agent .migrateDisk) (answered : c.failed = false) :
    ∃ old new front rest, r.findCurrent = .ok (some old) ∧ calls = front ++ rest ∧ c ∈ front ∧
      (∀ b ∈ front, b.question.takenAway? = none) ∧
      Follows (vm.detachPlan (.ofRecord old) ++ markPlan new) rest false := by
  rcases course with ⟨e, rfl, -⟩ | ⟨current, later, found, rfl, converges⟩
  · rw [List.mem_singleton.mp mem] at asked
    cases asked
  rcases List.mem_cons.mp mem with rfl | late
  · cases asked
  obtain ⟨_, new, front, rest, read, rfl, early, kept, follows⟩ :=
    converges.broken_behind_copy late asked answered
  obtain ⟨old, rfl, rfl⟩ := Option.map_eq_some_iff.mp read
  refine ⟨old, new, _ :: front, rest, found, rfl, List.mem_cons_of_mem _ early, ?_, follows⟩
  intro b mem
  rcases List.mem_cons.mp mem with rfl | mem
  · rfl
  · exact kept b mem

/-- What follows the copy fails behind it, or before anything was taken away. -/
theorem taken_iff_of_follows {old new : Disk} {front rest : List (Exchange Registry)}
    (follows : Follows (vm.detachPlan old ++ markPlan new) rest false)
    (kept : ∀ b ∈ front, b.question.takenAway? = none)
    (copied : ∃ m ∈ front, m.question = .agent vm.agent .migrateDisk ∧ m.failed = false) :
    (∃ b ∈ front ++ rest, b.question.takenAway? = some old.cid ∧ b.failed = false) ↔
      vm.FailedBehindCopy old.cid (front ++ rest) := by
  simp only [detachPlan, markPlan, List.cons_append, List.nil_append] at follows
  obtain ⟨unmount, rest, rfl, asked, ⟨failed, rfl, -⟩ | ⟨answered, follows⟩⟩ :=
    Follows.cons_iff.mp follows
  · -- The unmounting fails: nothing was taken away, and the last call is none of the two.
    constructor
    · rintro ⟨b, mem, taken, success⟩
      rcases List.mem_append.mp mem with early | late
      · rw [kept b early] at taken
        cases taken
      · rw [List.mem_singleton.mp late, failed] at success
        cases success
    · rintro ⟨before, last, same, -, -, detaching | ⟨id, marking⟩⟩
      · rw [← (List.append_singleton_inj.mp same).2, asked] at detaching
        cases detaching
      · rw [← (List.append_singleton_inj.mp same).2, asked] at marking
        cases marking
  -- From here on the unmounting is what took the disk away.
  have taken : ∃ b ∈ front ++ unmount :: rest,
      b.question.takenAway? = some old.cid ∧ b.failed = false :=
    ⟨unmount, by simp, by rw [asked]; rfl, answered⟩
  refine iff_of_true taken ?_
  obtain ⟨m, mem, copied⟩ := copied
  obtain ⟨detach, rest, rfl, detached, ⟨failed, rfl, -⟩ | ⟨-, follows⟩⟩ :=
    Follows.cons_iff.mp follows
  · exact ⟨front ++ [unmount], detach, by simp, failed,
      ⟨m, List.mem_append_left _ mem, copied⟩, .inl detached⟩
  · obtain ⟨mark, rest, rfl, marked, ⟨failed, rfl, -⟩ | ⟨-, follows⟩⟩ :=
      Follows.cons_iff.mp follows
    · exact ⟨front ++ [unmount, detach], mark, by simp, failed,
        ⟨m, List.mem_append_left _ mem, copied⟩, .inr ⟨_, marked⟩⟩
    · cases follows

/-- When `updateDisks` fails, the current disk stays the current one, and the call has taken it
away from the VM if and only if it failed behind the copy: when the old disk was to be detached,
or when the new one was to be marked. -/
theorem taken_iff_of_error {f : Failure} {row : DiskRow} {cid : DiskCid}
    (here : r.currentRow? = some row) (named : row.cid = cid.text)
    (run : Performs Registry.environment (vm.updateDisks pool).run r calls (.error f) r') :
    r'.currentRow? = some row ∧
      ((∃ c ∈ calls, c.question.takenAway? = some cid ∧ c.failed = false) ↔
        vm.FailedBehindCopy cid calls) := by
  have size : pool.diskSize ≠ 0 := by
    intro none
    simp only [updateDisks, none, if_true] at run
    obtain ⟨-, succeeded, -⟩ := Performs.run_pure_iff.mp run
    cases succeeded
  have course := course_of_performs size run
  refine ⟨(currentRow?_of_error course run).trans here, ?_⟩
  by_cases copied : ∃ m ∈ calls, m.question = .agent vm.agent .migrateDisk ∧ m.failed = false
  · obtain ⟨m, mem, asked, answered⟩ := copied
    obtain ⟨old, new, front, rest, found, rfl, early, kept, follows⟩ :=
      course.broken_behind_copy mem asked answered
    have same : old.cid = cid :=
      CloudId.text_injective ((Registry.cid_of_findCurrent found here).trans named)
    rw [← same]
    exact taken_iff_of_follows follows kept ⟨m, early, asked, answered⟩
  · -- Without a copy nothing was taken away, and nothing failed behind one.
    constructor
    · rintro ⟨c, mem, taken, -⟩
      obtain ⟨before, after, split⟩ := List.append_of_mem mem
      obtain ⟨m, early, asked⟩ := course.copied split (by rw [taken]; simp)
      exact absurd ⟨m, by simp [split, early], asked⟩ copied
    · rintro ⟨before, last, same, -, ⟨m, early, asked⟩, -⟩
      exact absurd ⟨m, by simp [same, early], asked⟩ copied

theorem sampleEnd_error : ∃ f, sampleEnd.1 = .error f :=
  Result.eq_error_of_isOk (by decide +kernel)

theorem taken_iff_of_error_sample :
    (∃ f, sampleEnd.1 = .error f) ∧
      sampleEnd.2.currentRow? = some (Registry.rowOf sampleDisk) ∧
      ((∃ c ∈ sampleCalls, c.question.takenAway? = some sampleDisk.cid ∧ c.failed = false) ↔
        sampleVm.FailedBehindCopy sampleDisk.cid sampleCalls) := by
  obtain ⟨f, ended⟩ := sampleEnd_error
  have run := ended ▸ performs_sample
  exact ⟨⟨f, ended⟩, taken_iff_of_error (Registry.currentRow?_ofCurrent sampleDisk) rfl run⟩

/-- A call that fails may have taken the disk away that is current behind it as before. -/
theorem current_disk_taken :
    ¬ ∀ (vm : AgentVm) (pool : DiskPool) (r r' : Registry) (row : DiskRow) (cid : DiskCid)
      (calls : List (Exchange Registry)) (f : Failure), r.currentRow? ≠ none →
        Performs Registry.environment (vm.updateDisks pool).run r calls (.error f) r' →
          r'.currentRow? = some row → row.cid = cid.text →
            ∀ c ∈ calls, c.question.takenAway? = some cid → c.failed = true := by
  intro claim
  obtain ⟨f, ended⟩ := sampleEnd_error
  have run := ended ▸ performs_sample
  have taken : sampleCalls.any (fun c =>
      decide (c.question.takenAway? = some sampleDisk.cid) && !c.failed) = true := by
    decide +kernel
  obtain ⟨c, mem, asked, success⟩ : ∃ c ∈ sampleCalls,
      c.question.takenAway? = some sampleDisk.cid ∧ c.failed = false := by simpa using taken
  have same : sampleEnd.2.currentRow? = some (Registry.rowOf sampleDisk) := by decide +kernel
  have failed := claim sampleVm samplePool (.ofCurrent sampleDisk) sampleEnd.2
    (Registry.rowOf sampleDisk) sampleDisk.cid sampleCalls f (by simp) run same rfl c mem asked
  rw [success] at failed
  cases failed

end AgentVm

end VmDeploy
