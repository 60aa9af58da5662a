import VmDeploy.Deployment
import VmDeploy.Proofs.Instance.Deletion
import VmDeploy.Proofs.Vm.Confinement

/-!
# Elements of a deployment

Instances, disks and stemcells are deleted alike. Each is deleted in a step of its own, in which
the cloud may say by one type of error that there is nothing to delete, and that counts as deleted
(`Element.Deleted`). Only an instance does something before that step, and only an instance is
changed by a deletion that fails: it is shutting down from then on (`Element.begun`).
-/

set_option autoImplicit false

namespace VmDeploy

open ServiceQuestion (DeletesOnly)

/-- What a deployment holds. -/
inductive Element where
  | ofInstance (i : Instance)
  | ofDisk (disk : Disk)
  | ofStemcell (s : Stemcell)

namespace Element

/-- What the cloud has to delete for it. -/
def resource : Element → Resource
  | .ofInstance _ => .vm
  | .ofDisk _ => .disk
  | .ofStemcell _ => .stemcell

/-- The step in which it is deleted. -/
def stepName : Element → String
  | .ofInstance i => s!"Deleting VM '{i.vm.cid.text}'"
  | .ofDisk disk => s!"Deleting disk '{disk.cid.text}'"
  | .ofStemcell s => s!"Deleting stemcell '{s.cid.text}'"

/-- The type of error by which the cloud says that there is none. -/
def notFound : Element → CloudErrorType
  | .ofInstance _ => .vmNotFound
  | .ofDisk _ => .diskNotFound
  | .ofStemcell _ => .stemcellNotFound

/-- What is done in the step. -/
def removal : Element → Action Unit
  | .ofInstance i => i.vm.delete
  | .ofDisk disk => disk.delete
  | .ofStemcell s => s.delete

/-- Deletes it; the second part of the result is how it is left. -/
def delete (timeout delay : Duration) : Element → ServiceProgram (Except Failure Unit × Element)
  | .ofInstance i => do
    let (result, i) ← ((Instance.delete timeout delay).run).run i
    return (result, .ofInstance i)
  | x => do return (← (Action.deletionStep x.stepName x.notFound x.removal).run, x)

/-- How it is left by a deletion that fails. -/
def begun : Element → Element
  | .ofInstance i => .ofInstance (i.movedTo .shuttingDown)
  | x => x

/-- The instance, if it is one. -/
def instance? : Element → Option Instance
  | .ofInstance i => some i
  | _ => none

/-- The disk, if it is one. -/
def disk? : Element → Option Disk
  | .ofDisk disk => some disk
  | _ => none

/-- The stemcell, if it is one. -/
def stemcell? : Element → Option Stemcell
  | .ofStemcell s => some s
  | _ => none

/-- It is not an instance that was deleted already. -/
def Alive : Element → Prop
  | .ofInstance i => i.lifecycle ≠ .deleted
  | _ => True

/-- It is not an instance with a VM that has something else deleted. -/
def Confined : Element → Prop
  | .ofInstance i => i.vm.Confined
  | _ => True

variable {σ : Type} {env : Environment services σ} {x x' : Element} {timeout delay : Duration}
  {s s' : σ} {ms : List (Moment services σ)} {r : Except Failure Unit}

@[simp] theorem begun_begun : x.begun.begun = x.begun := by
  cases x <;> rfl

theorem alive_begun : x.begun.Alive := by
  cases x with
  | ofInstance i => exact nofun
  | _ => trivial

@[simp] theorem confined_begun : x.begun.Confined ↔ x.Confined := by
  cases x <;> exact Iff.rfl

/-- The moments of a deletion end with the step of the element. It finished, or was skipped as the
cloud said that there is nothing to delete. -/
inductive Deleted (env : Environment services σ) (x : Element) :
    List (Moment services σ) → σ → Prop
  | finished {before step inner : List (Moment services σ)} {s s₁ s₂ s' : σ}
      (noted : Noted env x.stepName (.finished ()) s s₁ inner s₂ s' step)
      (ran : Action.Runs env x.removal s₁ inner (.ok ()) s₂) :
      Deleted env x (before ++ step) s'
  | skipped {before step inner : List (Moment services σ)} {s s₁ s₂ s' : σ} {f : Failure}
      {e : CloudError} (told : f.cloudError? = some e) (gone : e.is x.notFound = true)
      (noted : Noted env x.stepName (.skipped e.message : StepEnd Unit) s s₁ inner s₂ s' step)
      (ran : Action.Runs env x.removal s₁ inner (.error f) s₂) :
      Deleted env x (before ++ step) s'

/-- The step of an element that ends well deletes it. -/
theorem Deleted.of_step (before : List (Moment services σ))
    (run : Action.Runs env (Action.deletionStep x.stepName x.notFound x.removal) s ms (.ok ()) s') :
    Deleted env x (before ++ ms) s' := by
  obtain ⟨r₀, s₁, inner, s₂, ended, noted, ran⟩ := Action.runs_deletionStep_iff.mp run
  rcases Action.deletionEnd_eq_ok_iff.mp ended.symm with rfl | ⟨f, e, rfl, told, gone⟩
  · exact .finished noted ran
  · have skips : skipIfNotFound x.notFound (.error f) = .skipped e.message := by
      simp [skipIfNotFound, told, gone]
    rw [skips] at noted
    exact .skipped told gone noted ran

end Element

namespace Instance

variable {σ : Type} {env : Environment services σ} {i i' : Instance} {timeout delay : Duration}
  {s s' : σ} {ms : List (Moment services σ)} {r : Except Failure Unit}

/-- A removal that succeeds ends with the step in which the VM is deleted. -/
theorem step_of_removal (run : Action.Runs env (i.removal timeout delay) s ms (.ok ()) s') :
    ∃ before s₁ step, ms = before ++ step ∧
      Action.Runs env
        (Action.deletionStep s!"Deleting VM '{i.vm.cid.text}'" .vmNotFound i.vm.delete)
        s₁ step (.ok ()) s' := by
  obtain ⟨present, s₁, before, _, rfl, -, later⟩ := Action.runs_bind_ok_iff.mp run
  cases present with
  | false => exact ⟨before, s₁, _, rfl, later⟩
  | true =>
    obtain ⟨_, s₂, shut, step, rfl, -, deletes⟩ := Action.runs_bind_ok_iff.mp later
    exact ⟨before ++ shut, s₂, step, (List.append_assoc _ _ _).symm, deletes⟩

/-- A removal has nothing deleted but VMs, if the VM has not. -/
theorem asks_removal (confined : i.vm.Confined) :
    Action.Asks (DeletesOnly .vm) (i.removal timeout delay) := by
  have note (q : ServiceQuestion) (isNote : q.isNote = true) : q.DeletesOnly .vm :=
    .of_isNote isNote
  have deletes : Action.Asks (DeletesOnly .vm)
      (Action.deletionStep s!"Deleting VM '{i.vm.cid.text}'" .vmNotFound i.vm.delete) :=
    .deletionStep note (confined .delete nofun)
  refine .bind (.inContext (confined .exists nofun)) fun present => ?_
  cases present with
  | false => exact deletes
  | true =>
    refine .bind (.bind (.lift (Action.Asks.step note (.inContext ?_))) ?_) fun _ => deletes
    · exact confined (.waitUntilReady timeout delay) nofun
    · rintro (f | _)
      · exact .warn note
      · refine .bind (.step note (confined .stop nofun)) fun _ => ?_
        refine .bind (.inContext (confined .disks nofun)) fun disks => .forM fun disk => ?_
        exact .step note (.inContext (confined (.unmountDisk disk) nofun))

end Instance

namespace Element

variable {σ : Type} {env : Environment services σ} {x x' : Element} {timeout delay : Duration}
  {s s' : σ} {ms : List (Moment services σ)} {r : Except Failure Unit}

/-- The deletion of an instance as that of an element. -/
theorem runs_ofInstance_iff {i : Instance} :
    Program.Runs env ((ofInstance i).delete timeout delay) s ms (r, x') s' ↔
      ∃ i', x' = .ofInstance i' ∧
        InstanceAction.Runs env (Instance.delete timeout delay) i s ms r i' s' := by
  rw [delete, Program.runs_map_iff]
  constructor
  · rintro ⟨⟨_, i'⟩, heq, run⟩
    cases heq
    exact ⟨i', rfl, run⟩
  · rintro ⟨i', rfl, run⟩
    exact ⟨(r, i'), rfl, run⟩

/-- The deletion of anything else is its step. -/
theorem step_of_runs (run : Program.Runs env (x.delete timeout delay) s ms (r, x') s')
    (other : ∀ i, x ≠ .ofInstance i) :
    x' = x ∧ Action.Runs env (Action.deletionStep x.stepName x.notFound x.removal) s ms r s' := by
  cases x with
  | ofInstance i => exact absurd rfl (other i)
  | ofDisk _ | ofStemcell _ =>
    obtain ⟨_, heq, ran⟩ := Program.runs_map_iff.mp run
    cases heq
    exact ⟨rfl, ran⟩

/-- A deletion that ends well has deleted the element. -/
theorem deleted_of_runs (alive : x.Alive)
    (run : Program.Runs env (x.delete timeout delay) s ms (.ok (), x') s') :
    x.Deleted env ms s' := by
  cases x with
  | ofInstance i =>
    obtain ⟨i', rfl, ran⟩ := runs_ofInstance_iff.mp run
    obtain ⟨before, s₁, step, rfl, deletes⟩ :=
      Instance.step_of_removal (Instance.removal_of_runs (Instance.canShutDown alive) ran).1
    exact .of_step before deletes
  | ofDisk _ | ofStemcell _ => exact .of_step [] (step_of_runs run fun _ => nofun).2

/-- A deletion that fails leaves the element begun. -/
theorem begun_of_runs (alive : x.Alive) {f : Failure}
    (run : Program.Runs env (x.delete timeout delay) s ms (.error f, x') s') :
    x' = x.begun := by
  cases x with
  | ofInstance i =>
    obtain ⟨i', rfl, ran⟩ := runs_ofInstance_iff.mp run
    exact congrArg ofInstance (Instance.removal_of_runs (Instance.canShutDown alive) ran).2
  | ofDisk _ | ofStemcell _ => exact (step_of_runs run fun _ => nofun).1

/-- What is done in the step of a disk or a stemcell deletes nothing of another kind. -/
theorem asks_removal (other : ∀ i, x ≠ .ofInstance i) :
    Action.Asks (DeletesOnly x.resource) x.removal := by
  cases x with
  | ofInstance i => exact absurd rfl (other i)
  | ofDisk disk =>
    have forgets : Action.Asks (DeletesOnly .disk) disk.forget := by
      obtain ⟨record, _ | _⟩ := disk
      · exact .pure
      · exact .registry (.of_none rfl)
    refine .bind (.lift (.question (I := services) (.of_some rfl))) ?_
    rintro (e | _)
    · dsimp only
      split
      · exact .bind (.warn fun _ => .of_isNote) fun _ => .bind forgets fun _ => .throw
      · exact .throw
    · exact forgets
  | ofStemcell s => exact .cloud (.of_some rfl)

/-- A deletion deletes nothing of another kind, if no VM does. -/
theorem deletesOnly_of_runs (alive : x.Alive) (confined : x.Confined)
    (run : Program.Runs env (x.delete timeout delay) s ms (r, x') s') :
    ∀ m ∈ ms, m.question.DeletesOnly x.resource := by
  cases x with
  | ofInstance i =>
    obtain ⟨i', rfl, ran⟩ := runs_ofInstance_iff.mp run
    have removed := (Instance.removal_of_runs (Instance.canShutDown alive) ran).1
    exact (Instance.asks_removal confined).of_runs removed
  | ofDisk _ | ofStemcell _ =>
    have ran := (step_of_runs run fun _ => nofun).2
    refine Program.Asks.of_runs (Action.Asks.deletionStep (fun _ => .of_isNote) ?_) ran
    exact asks_removal fun _ => nofun

end Element

end VmDeploy
