import VmDeploy.Proofs.Instance.Operations
import VmDeploy.Proofs.Services.Calls
import VmDeploy.Proofs.Vm.Calls

/-!
# Deletion of an instance

What the deletion of an instance asks of its VM, call by call, whatever the VM does
(`Instance.Deletes`). A missing VM and an agent that does not answer lead straight to the
deletion of the VM. An agent that answers is made to stop the jobs and to unmount every disk
that it lists, and the first of these calls that fails ends the deletion with its failure.

So no VM is deleted by a deletion whose agent answered and still has a listed disk mounted.
-/

set_option autoImplicit false

namespace VmDeploy

open Vm (Does)

namespace VmCall

/-- What came back from the deletion of a VM, if a call is one. -/
def deletion? : VmCall → Option (Except Failure Unit)
  | ⟨.delete, answer⟩ => some answer
  | _ => none

/-- The last of some calls failed, and with contexts around it that is the failure told. -/
def EndWith (calls : List VmCall) (f : Failure) : Prop :=
  ∃ before request g contexts, calls = before ++ [⟨request, .error g⟩] ∧ f = g.wrap contexts

theorem EndWith.cons {calls : List VmCall} {f : Failure} {c : VmCall} (ends : EndWith calls f) :
    EndWith (c :: calls) f := by
  obtain ⟨before, request, g, contexts, rfl, told⟩ := ends
  exact ⟨c :: before, request, g, contexts, rfl, told⟩

/-- Every disk that the agent listed was unmounted. -/
def AllUnmounted (calls : List VmCall) : Prop :=
  ∃ disks : List Disk, ⟨.disks, .ok disks⟩ ∈ calls ∧
    ∀ disk ∈ disks, ⟨.unmountDisk disk, .ok ()⟩ ∈ calls

/-- Behind the deletion of a VM the cloud has it no more: it was deleted, or the cloud knew none. -/
def Gone (answer : Except Failure Unit) : Prop :=
  answer = .ok () ∨
    ∃ f e, answer = .error f ∧ f.cloudError? = some e ∧ e.is .vmNotFound = true

end VmCall

namespace Instance

variable {σ : Type} {env : Environment services σ} {i i' : Instance} {timeout delay : Duration}
  {s s' : σ} {ms : List (Moment services σ)} {calls : List VmCall} {r : Except Failure Unit}

/-- What is done to delete an instance that is shutting down. -/
def removal (i : Instance) (timeout delay : Duration) : Action Unit := do
  let present ← Action.inContext s!"Checking existence of VM for instance '{i.slot}'" i.vm.exists?
  if present then i.shutDown timeout delay
  Action.deletionStep s!"Deleting VM '{i.vm.cid.text}'" .vmNotFound i.vm.delete

/-- Between the two moves of a deletion stands the removal. -/
theorem delete_eq :
    delete timeout delay = (do
      move .shuttingDown
      let i ← getThe Instance
      act (i.removal timeout delay)
      move .deleted) := by
  unfold delete removal
  refine congrArg _ (funext fun _ => congrArg _ (funext fun i => ?_))
  simp only [act_bind, bind_assoc]
  refine congrArg _ (funext fun present => ?_)
  cases present
  · rfl
  · simp only [if_true, act_bind, bind_assoc]

/-- A deletion that the lifecycle admits is the removal, and moves the instance on if that
succeeds. -/
theorem removal_of_runs (admitted : i.lifecycle.canMoveTo .shuttingDown = true)
    (run : InstanceAction.Runs env (delete timeout delay) i s ms r i' s') :
    Action.Runs env ((i.movedTo .shuttingDown).removal timeout delay) s ms r s' ∧
      i' = i.movedTo (if r.isOk then .deleted else .shuttingDown) := by
  rw [delete_eq, InstanceAction.runs_enter_iff, if_pos admitted] at run
  obtain ⟨ran, moved⟩ := (InstanceAction.runs_leave_iff rfl).mp run
  refine ⟨ran, ?_⟩
  rw [moved]
  cases r <;> rfl

/-! ## The course of the calls -/

/-- The calls that unmount disks in turn, up to the first that fails. -/
inductive Unmounts (vm : VmCid) : List Disk → List VmCall → Except Failure Unit → Prop
  | done : Unmounts vm [] [] (.ok ())
  | failed {disk : Disk} {disks : List Disk} {f : Failure} :
      Unmounts vm (disk :: disks) [⟨.unmountDisk disk, .error f⟩]
        (.error (.context s!"Unmounting disk '{disk.cid.text}' from VM '{vm.text}'" f))
  | next {disk : Disk} {disks : List Disk} {calls : List VmCall} {r : Except Failure Unit}
      (rest : Unmounts vm disks calls r) :
      Unmounts vm (disk :: disks) (⟨.unmountDisk disk, .ok ()⟩ :: calls) r

/-- The calls to an agent that answers: the jobs are stopped and the listed disks unmounted. -/
inductive Quiesces (vm : VmCid) : List VmCall → Except Failure Unit → Prop
  | running {f : Failure} : Quiesces vm [⟨.stop, .error f⟩] (.error f)
  | unlisted {f : Failure} :
      Quiesces vm [⟨.stop, .ok ()⟩, ⟨.disks, .error f⟩]
        (.error (.context s!"Getting VM '{vm.text}' disks" f))
  | listed {disks : List Disk} {calls : List VmCall} {r : Except Failure Unit}
      (unmounts : Unmounts vm disks calls r) :
      Quiesces vm (⟨.stop, .ok ()⟩ :: ⟨.disks, .ok disks⟩ :: calls) r

/-- The calls that shut a VM down. An agent that does not answer is let be. -/
inductive ShutsDown (vm : VmCid) (timeout delay : Duration) :
    List VmCall → Except Failure Unit → Prop
  | unreachable {f : Failure} :
      ShutsDown vm timeout delay [⟨.waitUntilReady timeout delay, .error f⟩] (.ok ())
  | reached {calls : List VmCall} {r : Except Failure Unit} (quiesces : Quiesces vm calls r) :
      ShutsDown vm timeout delay (⟨.waitUntilReady timeout delay, .ok ()⟩ :: calls) r

/-- The calls of a deletion, and how it ends. -/
inductive Deletes (slot : String) (vm : VmCid) (timeout delay : Duration) :
    List VmCall → Except Failure Unit → Prop
  /-- Whether there is a VM cannot be found out. -/
  | unknown {f : Failure} :
      Deletes slot vm timeout delay [⟨.exists, .error f⟩]
        (.error (.context s!"Checking existence of VM for instance '{slot}'" f))
  /-- There is no VM, which is deleted all the same. -/
  | missing {answer : Except Failure Unit} :
      Deletes slot vm timeout delay [⟨.exists, .ok false⟩, ⟨.delete, answer⟩]
        (Action.deletionEnd .vmNotFound answer)
  /-- The VM cannot be shut down and is not deleted. -/
  | aborted {calls : List VmCall} {f : Failure}
      (failed : ShutsDown vm timeout delay calls (.error f)) :
      Deletes slot vm timeout delay (⟨.exists, .ok true⟩ :: calls) (.error f)
  /-- The VM is shut down and deleted. -/
  | completed {calls : List VmCall} {answer : Except Failure Unit}
      (shut : ShutsDown vm timeout delay calls (.ok ())) :
      Deletes slot vm timeout delay (⟨.exists, .ok true⟩ :: calls ++ [⟨.delete, answer⟩])
        (Action.deletionEnd .vmNotFound answer)

/-- Disks are unmounted in turn. -/
theorem does_unmounts (disks : List Disk) :
    Does env i.vm (disks.forM i.unmountDisk) (Unmounts i.vm.cid disks) := by
  induction disks with
  | nil =>
    refine Does.pure.mono ?_
    rintro _ _ ⟨rfl, rfl⟩
    exact .done
  | cons disk disks ih =>
    have one : Does env i.vm (i.unmountDisk disk) _ :=
      (Does.perform (.unmountDisk disk)).inContext.step
    refine (one.bind fun _ => ih).mono ?_
    rintro _ _ (⟨e, rfl, r₀, failed, rfl⟩ | ⟨_, _, calls, rfl, ⟨r₀, succeeded, rfl⟩, rest⟩)
    · cases r₀ with
      | ok _ => cases failed
      | error f =>
        cases failed
        exact .failed
    · cases Result.mapError_eq_ok.mp succeeded.symm
      exact .next rest

/-- The jobs are stopped, then the disks listed and unmounted. -/
theorem does_quiesces :
    Does env i.vm
      (do
        Action.step s!"Stopping jobs on instance '{i.slot}'" i.vm.stop
        let disks ← Action.inContext s!"Getting VM '{i.vm.cid.text}' disks" i.vm.disks
        disks.forM i.unmountDisk)
      (Quiesces i.vm.cid) := by
  have stops : Does env i.vm (Action.step s!"Stopping jobs on instance '{i.slot}'" i.vm.stop) _ :=
    (Does.perform .stop).step
  have lists :
      Does env i.vm (Action.inContext s!"Getting VM '{i.vm.cid.text}' disks" i.vm.disks) _ :=
    (Does.perform .disks).inContext
  refine (stops.bind fun _ => lists.bind fun _ => does_unmounts _).mono ?_
  rintro _ _ (⟨e, rfl, rfl⟩ | ⟨_, _, _, rfl, rfl, ⟨e, rfl, r₀, failed, rfl⟩ |
    ⟨disks, _, calls, rfl, ⟨r₀, succeeded, rfl⟩, unmounts⟩⟩)
  · exact .running
  · cases r₀ with
    | ok _ => cases failed
    | error f =>
      cases failed
      exact .unlisted
  · cases Result.mapError_eq_ok.mp succeeded.symm
    exact .listed unmounts

/-- The jobs are stopped and the disks unmounted, if the agent answers. -/
theorem does_shutsDown :
    Does env i.vm (i.shutDown timeout delay) (ShutsDown i.vm.cid timeout delay) := by
  have waits : Does env i.vm (Action.step s!"Waiting for the agent on VM '{i.vm.cid.text}'"
      (Action.inContext "Agent unreachable" (i.vm.waitUntilReady timeout delay))) _ :=
    (Does.perform (.waitUntilReady timeout delay)).inContext.step
  refine (waits.attempt.bind (Q := fun waited calls r =>
    ∀ answer, waited = answer.mapError (.context "Agent unreachable") →
      ShutsDown i.vm.cid timeout delay (⟨.waitUntilReady timeout delay, answer⟩ :: calls) r)
    ?_).mono ?_
  · rintro (f | _)
    · refine Does.warn.mono ?_
      rintro _ _ ⟨rfl, rfl⟩ (g | _) failed
      · exact .unreachable
      · cases failed
    · refine does_quiesces.mono fun calls r quiesces answer succeeded => ?_
      cases Result.mapError_eq_ok.mp succeeded.symm
      exact .reached quiesces
  · rintro _ _ (⟨e, rfl, _, failed, _⟩ | ⟨_, _, calls, rfl, ⟨_, same, answer, rfl, rfl⟩, course⟩)
    · cases failed
    · exact course answer (Except.ok.inj same)

/-- Every run of the removal takes this course. -/
theorem does_deletes :
    Does env i.vm (i.removal timeout delay) (Deletes i.slot i.vm.cid timeout delay) := by
  have looks : Does env i.vm
      (Action.inContext s!"Checking existence of VM for instance '{i.slot}'" i.vm.exists?) _ :=
    (Does.perform .exists).inContext
  have deletes : Does env i.vm
      (Action.deletionStep s!"Deleting VM '{i.vm.cid.text}'" .vmNotFound i.vm.delete) _ :=
    (Does.perform .delete).deletionStep
  refine (looks.bind (Q := fun present calls r =>
    Deletes i.slot i.vm.cid timeout delay (⟨.exists, .ok present⟩ :: calls) r) ?_).mono ?_
  · rintro (_ | _)
    · refine deletes.mono ?_
      rintro _ _ ⟨answer, rfl, rfl⟩
      exact .missing
    · refine (does_shutsDown.bind fun _ => deletes).mono ?_
      rintro _ _ (⟨f, rfl, failed⟩ | ⟨_, calls, _, rfl, shut, answer, rfl, rfl⟩)
      · exact .aborted failed
      · exact .completed shut
  · rintro _ _ (⟨e, rfl, r₀, failed, rfl⟩ | ⟨present, _, calls, rfl, ⟨r₀, found, rfl⟩, course⟩)
    · cases r₀ with
      | ok _ => cases failed
      | error f =>
        cases failed
        exact .unknown
    · cases Result.mapError_eq_ok.mp found.symm
      exact course

/-! ## What the courses have in common -/

variable {slot : String} {vm : VmCid} {disks : List Disk} {f : Failure}

/-- Shutting down deletes no VM. -/
theorem Unmounts.deletions (unmounts : Unmounts vm disks calls r) :
    calls.filterMap VmCall.deletion? = [] := by
  induction unmounts with
  | done | failed => rfl
  | next _ ih => exact ih

@[inherit_doc Unmounts.deletions]
theorem ShutsDown.deletions (shuts : ShutsDown vm timeout delay calls r) :
    calls.filterMap VmCall.deletion? = [] := by
  cases shuts with
  | unreachable => rfl
  | reached quiesces =>
    cases quiesces with
    | running | unlisted => rfl
    | listed unmounts => exact unmounts.deletions

/-- What is told of an unmounting that failed. -/
theorem Unmounts.endWith (unmounts : Unmounts vm disks calls (.error f)) :
    VmCall.EndWith calls f := by
  generalize ended : Except.error f = r at unmounts
  induction unmounts with
  | done => cases ended
  | @failed disk _ g =>
    cases ended
    exact ⟨[], .unmountDisk disk, g, [_], rfl, rfl⟩
  | next _ ih => exact (ih ended).cons

/-- What is told of a shutdown that failed. -/
theorem ShutsDown.endWith (shuts : ShutsDown vm timeout delay calls (.error f)) :
    VmCall.EndWith calls f := by
  cases shuts with
  | reached quiesces =>
    cases quiesces with
    | running => exact ⟨[_], .stop, f, [], rfl, rfl⟩
    | @unlisted g => exact ⟨[_, _], .disks, g, [_], rfl, rfl⟩
    | listed unmounts => exact unmounts.endWith.cons.cons.cons

/-- Disks that were unmounted without failure were all unmounted. -/
theorem Unmounts.all (unmounts : Unmounts vm disks calls (.ok ())) :
    ∀ disk ∈ disks, ⟨.unmountDisk disk, .ok ()⟩ ∈ calls := by
  generalize ended : Except.ok () = r at unmounts
  induction unmounts with
  | done => simp
  | failed => cases ended
  | next _ ih =>
    intro disk mem
    rcases List.mem_cons.mp mem with rfl | later
    · exact List.mem_cons_self
    · exact List.mem_cons_of_mem _ (ih ended disk later)

/-- A shutdown that did not fail left no listed disk mounted, unless the agent did not answer. -/
theorem ShutsDown.allUnmounted (shuts : ShutsDown vm timeout delay calls (.ok ())) :
    (∃ f, calls = [⟨.waitUntilReady timeout delay, .error f⟩]) ∨ VmCall.AllUnmounted calls := by
  cases shuts with
  | @unreachable f => exact .inl ⟨f, rfl⟩
  | reached quiesces =>
    cases quiesces with
    | @listed disks _ _ unmounts =>
      refine .inr ⟨disks, by simp, ?_⟩
      intro disk mem
      simp [unmounts.all disk mem]

/-- A deletion succeeds exactly if the VM was deleted, once, or is not there. -/
theorem Deletes.ok_iff (deletes : Deletes slot vm timeout delay calls r) :
    r = .ok () ↔ ∃ answer, calls.filterMap VmCall.deletion? = [answer] ∧ VmCall.Gone answer := by
  have reached {answer : Except Failure Unit}
      (asked : calls.filterMap VmCall.deletion? = [answer]) :
      Action.deletionEnd .vmNotFound answer = .ok () ↔
        ∃ a, calls.filterMap VmCall.deletion? = [a] ∧ VmCall.Gone a := by
    rw [Action.deletionEnd_eq_ok_iff]
    constructor
    · exact fun gone => ⟨answer, asked, gone⟩
    · rintro ⟨a, same, gone⟩
      rw [asked] at same
      cases same
      exact gone
  cases deletes with
  | unknown => exact iff_of_false nofun (by rintro ⟨_, none, _⟩; cases none)
  | missing => exact reached rfl
  | aborted failed =>
    refine iff_of_false nofun ?_
    rintro ⟨_, one, _⟩
    rw [List.filterMap_cons_none rfl, failed.deletions] at one
    cases one
  | completed shut =>
    refine reached ?_
    rw [List.cons_append, List.filterMap_cons_none rfl, List.filterMap_append, shut.deletions]
    rfl

/-- What is told of a deletion that failed. -/
theorem Deletes.endWith (deletes : Deletes slot vm timeout delay calls (.error f)) :
    VmCall.EndWith calls f := by
  generalize ended : Except.error f = r at deletes
  cases deletes with
  | @unknown g =>
    cases ended
    exact ⟨[], .exists, g, [_], rfl, rfl⟩
  | missing =>
    cases Action.eq_error_of_deletionEnd ended.symm
    exact ⟨[_], .delete, f, [], rfl, rfl⟩
  | aborted failed =>
    cases ended
    exact failed.endWith.cons
  | completed shut =>
    cases Action.eq_error_of_deletionEnd ended.symm
    exact ⟨_, .delete, f, [], rfl, rfl⟩

/-- Where the agent answered, no VM is deleted while a listed disk is not unmounted. -/
theorem Deletes.allUnmounted (deletes : Deletes slot vm timeout delay calls r)
    (deleted : calls.filterMap VmCall.deletion? ≠ [])
    (answered : ⟨.waitUntilReady timeout delay, .ok ()⟩ ∈ calls) : VmCall.AllUnmounted calls := by
  cases deletes with
  | unknown => exact absurd rfl deleted
  | missing =>
    simp only [List.mem_cons, List.not_mem_nil, or_false] at answered
    rcases answered with looked | asked
    · cases looked
    · cases asked
  | aborted failed =>
    rw [List.filterMap_cons_none rfl, failed.deletions] at deleted
    exact absurd rfl deleted
  | completed shut =>
    rcases shut.allUnmounted with ⟨f, rfl⟩ | ⟨disks, listed, unmounted⟩
    · simp only [List.mem_cons, List.mem_append, List.not_mem_nil, or_false] at answered
      rcases answered with (looked | waited) | asked
      · cases looked
      · cases waited
      · cases asked
    · refine ⟨disks, by simp [listed], ?_⟩
      intro disk mem
      simp [unmounted disk mem]

/-- What holds of a deletion that the lifecycle admits, whatever the VM does. -/
structure Deletion (i : Instance) (timeout delay : Duration) (calls : List VmCall)
    (r : Except Failure Unit) (i' : Instance) : Prop where
  /-- The calls are those of a deletion, up to the first that has to end it. -/
  course : Deletes i.slot i.vm.cid timeout delay calls r
  /-- The instance is deleted, or still shutting down. -/
  lifecycle : i' = i.movedTo (if r.isOk then .deleted else .shuttingDown)
  /-- The deletion succeeds exactly if the VM was deleted, once, or is not there. -/
  ok_iff : r = .ok () ↔
    ∃ answer, calls.filterMap VmCall.deletion? = [answer] ∧ VmCall.Gone answer
  /-- If it fails, its last call failed, and that failure is told. -/
  error : ∀ f, r = .error f → VmCall.EndWith calls f
  /-- Where the agent answered, no VM is deleted while a listed disk is not unmounted. -/
  unmounted : calls.filterMap VmCall.deletion? ≠ [] →
    ⟨.waitUntilReady timeout delay, .ok ()⟩ ∈ calls → VmCall.AllUnmounted calls

/-- Every deletion that the lifecycle admits consists of calls of the VM and notes, and the calls
are those of a deletion. For a VM that somebody else drives they are all that it was asked. -/
theorem deletion_of_runs (admitted : i.lifecycle.canMoveTo .shuttingDown = true)
    (run : InstanceAction.Runs env (delete timeout delay) i s ms r i' s') :
    ∃ calls, i.vm.Calls env s ms calls s' ∧
      (∀ cid ref, i.vm = .remote cid ref → calls = ms.filterMap Moment.vmCall?) ∧
      i.Deletion timeout delay calls r i' := by
  obtain ⟨ran, moved⟩ := removal_of_runs admitted run
  obtain ⟨calls, made, course⟩ := does_deletes ran
  rw [vm_movedTo] at made
  refine ⟨calls, made, ?_, course, moved, course.ok_iff, ?_, course.allUnmounted⟩
  · intro cid ref same
    rw [same] at made
    exact made.eq_filterMap
  · rintro f rfl
    exact course.endWith

/-- An instance to look at. Somebody else drives its VM. -/
def sample : Instance := ⟨"web", 0, .remote ⟨"vm-web", by decide⟩ ⟨0⟩, {}, .running⟩

/-- A VM that unmounts its two disks, and that the cloud no longer knows when it is deleted. -/
def sampleAnswer : (request : VmRequest) → Except Failure request.Value
  | .exists => Except.ok (ε := Failure) true
  | .disks => Except.ok (ε := Failure)
      [.untracked ⟨"disk-web", by decide⟩ default default,
        .untracked ⟨"disk-logs", by decide⟩ default default]
  | .updateDisks _ => Except.ok (ε := Failure) []
  | .delete => Except.error (.cloud (.rejected "delete_vm" .vmNotFound "gone" false))
  | .waitUntilReady _ _ | .stop | .apply _ | .start | .waitToBeRunning _ _ | .attachDisk _
  | .detachDisk _ | .unmountDisk _ => Except.ok (ε := Failure) ()

/-- Services with such a VM. -/
def sampleServices : Program.Handler services Unit
  | .vm _ request, _ => (sampleAnswer request, ())
  | q, _ => (q.plainAnswer, ())

/-- The deletion of the sample. -/
def sampleDeletion : ServiceProgram (Except Failure Unit × Instance) :=
  (delete (.ofMillis 10000) (.ofMillis 500)).run.run sample

theorem deletion_of_runs_sample :
    sample.lifecycle.canMoveTo .shuttingDown = true ∧
      (sampleDeletion.run sampleServices ()).1.2.lifecycle = .deleted ∧
      ((sampleDeletion.trace sampleServices ()).filterMap Moment.vmCall?).length = 7 ∧
      ∃ calls,
        sample.vm.Calls (Program.ofHandler sampleServices) ()
          (sampleDeletion.trace sampleServices ()) calls () ∧
        (∀ cid ref, sample.vm = .remote cid ref →
          calls = (sampleDeletion.trace sampleServices ()).filterMap Moment.vmCall?) ∧
        sample.Deletion (.ofMillis 10000) (.ofMillis 500) calls
          (sampleDeletion.run sampleServices ()).1.1
          (sampleDeletion.run sampleServices ()).1.2 := by
  refine ⟨by decide, by decide +kernel, by decide +kernel, ?_⟩
  exact deletion_of_runs (by decide) (Program.runs_ofHandler sampleServices sampleDeletion ())

end Instance

end VmDeploy
