import VmDeploy.Proofs.Disk.Inventory
import VmDeploy.Proofs.Registry.Environment
import VmDeploy.Proofs.Services.Plans
import VmDeploy.Vm.Agent

/-!
# Convergence of the persistent disk

`AgentVm.updateDisks` follows one of three plans, which depend on the current disk: there is
none, there is one that does not match the pool, there is one that does. Any call may fail;
the plan then ends there. Only where a disk was made and could not be recorded one more call
is made, for its deletion. `Course` says so, and `course_of_performs` finds the course of a
run by taking the operation apart.

The plans have in common that a disk is taken away from the VM only behind a successful copy
of its content, that a disk is marked as the current one last, and that no record is removed.
-/

set_option autoImplicit false

namespace VmDeploy

/-- The disk that a question asks to take away from a VM. -/
def ServiceQuestion.takenAway? : ServiceQuestion → Option DiskCid
  | .agent _ (.unmountDisk cid) | .cloud (.detachDisk _ cid) => some cid
  | _ => none

namespace AgentVm

variable {σ α : Type} {env : Environment services σ} {vm : AgentVm}

/-! ## Plans -/

/-- How a disk gets into the VM. -/
def attachPlan (vm : AgentVm) (disk : Disk) : List ServiceQuestion :=
  [.cloud (.attachDisk vm.cid disk.cid), .agent vm.agent (.mountDisk disk.cid)]

/-- How the content gets from one disk to the other. -/
def copyPlan (vm : AgentVm) : List ServiceQuestion := [.agent vm.agent .migrateDisk]

/-- How a disk gets out of the VM. -/
def detachPlan (vm : AgentVm) (disk : Disk) : List ServiceQuestion :=
  [.agent vm.agent (.unmountDisk disk.cid), .cloud (.detachDisk vm.cid disk.cid)]

/-- How a disk becomes the current one. -/
def markPlan (disk : Disk) : List ServiceQuestion := [.registry (.updateCurrent disk.record.id)]

theorem attachDiskStep_adheres (quiet : env.Quiet) {disk : Disk} :
    Adheres env (vm.attachPlan disk) (vm.attachDiskStep disk) :=
  .step quiet (.bind (.inContext .cloud) fun _ => .inContext .agent)

theorem migrateDiskStep_adheres (quiet : env.Quiet) {old new : Disk} :
    Adheres env vm.copyPlan (vm.migrateDiskStep old new) :=
  .step quiet (.inContext .agent)

theorem detachDiskStep_adheres (quiet : env.Quiet) {disk : Disk} :
    Adheres env (vm.detachPlan disk) (vm.detachDiskStep disk) :=
  .step quiet (.bind (.inContext .agent) fun _ => .inContext .cloud)

theorem setCurrent_adheres {disk : Disk} :
    Adheres env (markPlan disk) (Inventory.setCurrent disk) :=
  .inContext .registry

/-- What the plan for a new disk is carried out with: the making of the disk in front of it. -/
inductive Makes (vm : AgentVm) (pool : DiskPool) (plan : Disk → List ServiceQuestion) :
    List (Exchange Registry) → Bool → Prop
  /-- The cloud makes no disk. -/
  | refused {r : Registry} {e : CloudError} :
      Makes vm pool plan
        [.cloud r (.createDisk pool.diskSize pool.cloudProperties vm.cid) (.error e)] false
  /-- The disk cannot be recorded and is deleted again, if the cloud lets that happen. -/
  | withdrawn {r r₁ r₂ : Registry} {cid : DiskCid} {e : RegistryError}
      {answer : Except CloudError Unit} :
      Makes vm pool plan
        [.cloud r (.createDisk pool.diskSize pool.cloudProperties vm.cid) (.ok cid),
          .registry r₁ (.save cid pool.diskSize pool.cloudProperties) (.error e),
          .cloud r₂ (.deleteDisk cid) answer] false
  /-- The disk is recorded, and the plan is followed for it. -/
  | recorded {r r₁ : Registry} {record : DiskRecord} {calls : List (Exchange Registry)}
      {ok : Bool} (follows : Follows (plan (.ofRecord record)) calls ok) :
      Makes vm pool plan
        (.cloud r (.createDisk pool.diskSize pool.cloudProperties vm.cid) (.ok record.cid) ::
          .registry r₁ (.save record.cid pool.diskSize pool.cloudProperties) (.ok record) ::
            calls) ok

/-- The calls that make the disk of a VM match a pool, by what the current disk is. -/
def Converges (vm : AgentVm) (pool : DiskPool) :
    (current : Option Disk) → List (Exchange Registry) → (ok : Bool) → Prop
  | none => Makes vm pool fun new => vm.attachPlan new ++ markPlan new
  | some old =>
    if old.needsMigration pool.diskSize pool.cloudProperties then
      Makes vm pool fun new =>
        vm.attachPlan new ++ vm.copyPlan ++ vm.detachPlan old ++ markPlan new
    else Follows (vm.attachPlan old ++ markPlan old)

/-- The calls of `updateDisks` for a pool that asks for a disk. The current disk cannot be read
and nothing else is done, or it is read and the disk of the VM is made to match. -/
def Course (vm : AgentVm) (pool : DiskPool) (r : Registry) (calls : List (Exchange Registry))
    (ok : Bool) : Prop :=
  (∃ e, calls = [.registry r .findCurrent (.error e)] ∧ ok = false) ∨
    ∃ (current : Option DiskRecord) (later : List (Exchange Registry)),
      r.findCurrent = .ok current ∧ calls = .registry r .findCurrent (.ok current) :: later ∧
        vm.Converges pool (current.map .ofRecord) later ok

/-- What is done with a new disk by a plan makes the disk first. -/
theorem makes_of_performs {pool : DiskPool} {plan : Disk → List ServiceQuestion}
    {f : Disk → Action α} (later : ∀ new, Adheres Registry.environment (plan new) (f new))
    {r r' : Registry} {calls : List (Exchange Registry)} {result : Except Failure α}
    (run : Performs Registry.environment (vm.createDiskStep pool >>= f).run r calls result r') :
    Makes vm pool plan calls result.isOk := by
  have quiet := Registry.environment_quiet
  rcases Performs.run_bind_iff.mp run with
    ⟨e, rfl, failed⟩ | ⟨new, r₁, _, _, rfl, made, ran⟩
  · cases Inventory.creates_of_performs quiet ((Performs.run_step_iff quiet).mp failed) with
    | refused _ => exact .refused
    | withdrawn _ _ _ => exact .withdrawn
  · cases Inventory.creates_of_performs quiet ((Performs.run_step_iff quiet).mp made) with
    | @recorded cid record r₂ _ _ saved =>
      obtain ⟨id, now, _, saved⟩ := Registry.Answers.save saved
      obtain ⟨same, -⟩ := Registry.save_eq_ok saved
      have named : cid = record.cid := by rw [same]
      rw [named]
      exact .recorded (later _ ran)

/-- The calls of a convergence, behind the one that reads the current disk. -/
theorem converges_of_performs {pool : DiskPool} {current : Option Disk}
    {r r' : Registry} {calls : List (Exchange Registry)} {result : Except Failure (List Disk)}
    (run : Performs Registry.environment
      (do
        let disk ← vm.convergeDisk pool current
        Inventory.setCurrent disk
        return [disk] : Action (List Disk)).run r calls result r') :
    vm.Converges pool current calls result.isOk := by
  have quiet := Registry.environment_quiet
  have mark (disk : Disk) : Adheres Registry.environment (markPlan disk)
      (do Inventory.setCurrent disk; return [disk] : Action (List Disk)) :=
    List.append_nil (markPlan disk) ▸ .bind setCurrent_adheres fun _ => .pure
  cases current with
  | none =>
    simp only [convergeDisk, bind_assoc, pure_bind] at run
    refine makes_of_performs (fun new => ?_) run
    exact .bind (attachDiskStep_adheres quiet) fun _ => mark new
  | some old =>
    cases differs : old.needsMigration pool.diskSize pool.cloudProperties with
    | true =>
      simp only [convergeDisk, differs, if_true, bind_assoc, pure_bind] at run
      simp only [Converges, differs, if_true]
      refine makes_of_performs (fun new => ?_) run
      simp only [List.append_assoc]
      exact .bind (attachDiskStep_adheres quiet) fun _ =>
        .bind (migrateDiskStep_adheres quiet) fun _ =>
          .bind (detachDiskStep_adheres quiet) fun _ => mark new
    | false =>
      simp only [convergeDisk, differs, Bool.false_eq_true, if_false, bind_assoc, pure_bind] at run
      simp only [Converges, differs, Bool.false_eq_true, if_false]
      exact Adheres.bind (attachDiskStep_adheres quiet) (fun _ => mark old) run

/-- Every run of `updateDisks` for a pool that asks for a disk takes this course. -/
theorem course_of_performs {pool : DiskPool} (size : pool.diskSize ≠ 0) {r r' : Registry}
    {calls : List (Exchange Registry)} {result : Except Failure (List Disk)}
    (run : Performs Registry.environment (vm.updateDisks pool).run r calls result r') :
    vm.Course pool r calls result.isOk := by
  simp only [updateDisks, size, if_false, Inventory.findCurrent, bind_assoc, pure_bind] at run
  rcases Performs.run_bind_iff.mp run with
    ⟨f, rfl, failed⟩ | ⟨current, r₁, _, later, rfl, found, ran⟩
  · obtain ⟨_, heq, read⟩ := Performs.run_inContext_iff.mp failed
    obtain ⟨answer, rfl, rfl, _⟩ := Performs.run_registry_iff.mp read
    cases answer with
    | ok _ => cases heq
    | error e => exact .inl ⟨e, rfl, rfl⟩
  · obtain ⟨rfl, answered⟩ :=
      Performs.run_registry_ok_iff.mp (Performs.run_inContext_ok_iff.mp found)
    obtain ⟨rfl, here⟩ := Registry.Answers.findCurrent answered
    exact .inr ⟨current, later, here, rfl, converges_of_performs ran⟩

/-! ## What the plans have in common -/

variable {pool : DiskPool} {plan : Disk → List ServiceQuestion} {current : Option Disk}
  {calls before after : List (Exchange Registry)} {c : Exchange Registry} {ok : Bool}

/-- Whether a question belongs to the making of a disk. -/
def Making : ServiceQuestion → Prop
  | .cloud (.createDisk _ _ _) | .cloud (.deleteDisk _) | .registry (.save _ _ _) => True
  | _ => False

/-- A call that does not belong to the making of a new disk follows the plan for it. -/
theorem Makes.split (makes : Makes vm pool plan calls ok) (here : calls = before ++ c :: after) :
    Making c.question ∨
      ∃ new made earlier, before = made ++ earlier ∧ (∀ b ∈ made, Making b.question) ∧
        Follows (plan new) (earlier ++ c :: after) ok := by
  cases makes with
  | refused =>
    have mem := List.mem_append_right before (List.mem_cons_self (a := c) (l := after))
    rw [← here, List.mem_singleton] at mem
    rw [mem]
    exact .inl trivial
  | withdrawn =>
    have mem := List.mem_append_right before (List.mem_cons_self (a := c) (l := after))
    rw [← here] at mem
    simp only [List.mem_cons, List.not_mem_nil, or_false] at mem
    rcases mem with rfl | rfl | rfl <;> exact .inl trivial
  | @recorded _ _ record rest _ follows =>
    rcases before with _ | ⟨b₁, _ | ⟨b₂, earlier⟩⟩
    · cases here
      exact .inl trivial
    · cases here
      exact .inl trivial
    · have later : rest = earlier ++ c :: after := by
        rw [List.cons_append, List.cons_append, List.cons.injEq, List.cons.injEq] at here
        exact here.2.2
      cases here
      refine .inr ⟨.ofRecord record, [_, _], earlier, rfl, ?_, later ▸ follows⟩
      intro b mem
      simp only [List.mem_cons, List.not_mem_nil, or_false] at mem
      rcases mem with rfl | rfl <;> trivial

/-- The content is copied before a disk is taken away. -/
theorem copied_of_follows {old new : Disk}
    (follows : Follows (vm.attachPlan new ++ vm.copyPlan ++ vm.detachPlan old ++ markPlan new)
      (before ++ c :: after) ok) (taken : c.question.takenAway? ≠ none) :
    ∃ m ∈ before, m.question = .agent vm.agent .migrateDisk ∧ m.failed = false := by
  obtain ⟨⟨rest, planned⟩, answered⟩ := follows.split rfl
  simp only [attachPlan, copyPlan, List.cons_append, List.nil_append] at planned
  rcases before with _ | ⟨b₁, _ | ⟨b₂, _ | ⟨m, before⟩⟩⟩
  · injection planned with first
    exact absurd (first ▸ rfl) taken
  · injection planned with _ later
    injection later with second
    exact absurd (second ▸ rfl) taken
  · injection planned with _ later
    injection later with _ later
    injection later with third
    exact absurd (third ▸ rfl) taken
  · injection planned with _ later
    injection later with _ later
    injection later with third
    have mem : m ∈ b₁ :: b₂ :: m :: before := by simp
    exact ⟨m, mem, third.symm, answered m mem⟩

/-- Every call belongs to the making of a disk, or it follows a plan of which only the last
question, which marks a disk, is one to the registry. -/
theorem Converges.follows_of_mem (converges : vm.Converges pool current calls ok)
    (mem : c ∈ calls) :
    Making c.question ∨
      ∃ disk front rest, Follows (front ++ markPlan disk) rest ok ∧ c ∈ rest ∧
        ∀ request, .registry request ∉ front := by
  obtain ⟨before, after, rfl⟩ := List.append_of_mem mem
  cases current with
  | none =>
    rcases Makes.split converges rfl with making | ⟨new, _, _, -, -, follows⟩
    · exact .inl making
    · exact .inr ⟨new, _, _, follows, by simp, by simp [attachPlan]⟩
  | some old =>
    simp only [Converges] at converges
    split at converges
    · rcases Makes.split converges rfl with making | ⟨new, _, _, -, -, follows⟩
      · exact .inl making
      · exact .inr ⟨new, _, _, follows, by simp, by simp [attachPlan, copyPlan, detachPlan]⟩
    · exact .inr ⟨old, _, _, converges, by simp, by simp [attachPlan]⟩

/-- No record is removed. -/
theorem Converges.question_ne_delete (converges : vm.Converges pool current calls ok)
    (mem : c ∈ calls) (id : RecordId) : c.question ≠ .registry (.delete id) := by
  intro asked
  rcases converges.follows_of_mem mem with making | ⟨disk, front, rest, follows, here, absent⟩
  · rw [asked] at making
    exact making
  · have planned := follows.mem_plan here
    rw [asked] at planned
    rcases List.mem_append.mp planned with early | late
    · exact absent _ early
    · cases List.mem_singleton.mp late

/-- A disk is marked as the current one last. -/
theorem Converges.ok_of_marked (converges : vm.Converges pool current calls ok)
    (mem : c ∈ calls) {id : RecordId} (asked : c.question = .registry (.updateCurrent id))
    (answered : c.failed = false) : ok = true := by
  rcases converges.follows_of_mem mem with making | ⟨disk, front, rest, follows, here, absent⟩
  · rw [asked] at making
    exact making.elim
  · have planned := follows.mem_plan here
    rw [asked] at planned
    rcases List.mem_append.mp planned with early | late
    · exact absurd early (absent _)
    · exact follows.carried_out (absent _) here (asked.trans (List.mem_singleton.mp late)) answered

/-- Attaching a disk and marking it takes nothing away. -/
theorem takenAway?_attach_mark {disk : Disk} :
    ∀ q ∈ vm.attachPlan disk ++ markPlan disk, q.takenAway? = none := by
  simp [attachPlan, markPlan, ServiceQuestion.takenAway?]

/-- Attaching a disk and copying to it takes nothing away. -/
theorem takenAway?_attach_copy {disk : Disk} :
    ∀ q ∈ vm.attachPlan disk ++ vm.copyPlan, q.takenAway? = none := by
  simp [attachPlan, copyPlan, ServiceQuestion.takenAway?]

theorem Making.takenAway? {q : ServiceQuestion} (making : Making q) : q.takenAway? = none := by
  unfold Making at making
  split at making <;> first | rfl | cases making

/-- A disk is taken away only behind a successful copy of its content. -/
theorem Converges.copied (converges : vm.Converges pool current calls ok)
    (here : calls = before ++ c :: after) (taken : c.question.takenAway? ≠ none) :
    ∃ m ∈ before, m.question = .agent vm.agent .migrateDisk ∧ m.failed = false := by
  cases current with
  | none =>
    rcases Makes.split converges here with making | ⟨new, _, _, -, -, follows⟩
    · exact absurd making.takenAway? taken
    · exact absurd (takenAway?_attach_mark _ (follows.mem_plan (by simp))) taken
  | some old =>
    simp only [Converges] at converges
    split at converges
    · rcases Makes.split converges here with making | ⟨new, made, earlier, rfl, -, follows⟩
      · exact absurd making.takenAway? taken
      · obtain ⟨m, mem, copied⟩ := copied_of_follows follows taken
        exact ⟨m, List.mem_append_right made mem, copied⟩
    · exact absurd (takenAway?_attach_mark _ (converges.mem_plan (by simp [here]))) taken

variable {r : Registry}

theorem Course.question_ne_delete (course : vm.Course pool r calls ok) (mem : c ∈ calls)
    (id : RecordId) : c.question ≠ .registry (.delete id) := by
  rcases course with ⟨e, rfl, -⟩ | ⟨current, later, -, rfl, converges⟩
  · rw [List.mem_singleton.mp mem]
    simp [Exchange.question]
  · rcases List.mem_cons.mp mem with rfl | late
    · simp [Exchange.question]
    · exact converges.question_ne_delete late id

theorem Course.ok_of_marked (course : vm.Course pool r calls ok) (mem : c ∈ calls) {id : RecordId}
    (asked : c.question = .registry (.updateCurrent id)) (answered : c.failed = false) :
    ok = true := by
  rcases course with ⟨e, rfl, -⟩ | ⟨current, later, -, rfl, converges⟩
  · rw [List.mem_singleton.mp mem] at asked
    cases asked
  · rcases List.mem_cons.mp mem with rfl | late
    · cases asked
    · exact converges.ok_of_marked late asked answered

/-- A convergence in which no call fails succeeds. -/
theorem Course.ok_of_answered (course : vm.Course pool r calls ok)
    (answered : ∀ c ∈ calls, c.failed = false) : ok = true := by
  have made {plan : Disk → List ServiceQuestion} {later : List (Exchange Registry)}
      (makes : Makes vm pool plan later ok) (answered : ∀ c ∈ later, c.failed = false) :
      ok = true := by
    cases makes with
    | refused | withdrawn => simp [Exchange.failed, Except.isOk, Except.toBool] at answered
    | recorded follows => exact follows.ok_of_answered fun c mem => answered c (by simp [mem])
  rcases course with ⟨e, rfl, -⟩ | ⟨current, later, -, rfl, converges⟩
  · simp [Exchange.failed, Except.isOk, Except.toBool] at answered
  · have rest : ∀ c ∈ later, c.failed = false := fun c mem => answered c (by simp [mem])
    cases current with
    | none => exact made converges rest
    | some old =>
      simp only [Option.map_some, Converges] at converges
      split at converges
      · exact made converges rest
      · exact converges.ok_of_answered rest

/-- A disk is taken away only behind a successful copy of its content. -/
theorem Course.copied (course : vm.Course pool r calls ok) (here : calls = before ++ c :: after)
    (taken : c.question.takenAway? ≠ none) :
    ∃ m ∈ before, m.question = .agent vm.agent .migrateDisk ∧ m.failed = false := by
  rcases course with ⟨e, rfl, -⟩ | ⟨current, later, -, rfl, converges⟩
  · rcases before with _ | ⟨b, before⟩
    · cases here
      exact absurd rfl taken
    · simp at here
  · rcases before with _ | ⟨b, before⟩
    · cases here
      exact absurd rfl taken
    · rw [List.cons_append, List.cons.injEq] at here
      obtain ⟨m, mem, copied⟩ := converges.copied here.2 taken
      exact ⟨m, List.mem_cons_of_mem _ mem, copied⟩

end AgentVm

end VmDeploy
