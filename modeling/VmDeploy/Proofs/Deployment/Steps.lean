import VmDeploy.Deployment
import VmDeploy.Proofs.Instance.History
import VmDeploy.Proofs.Stage.Outcome
import VmDeploy.Proofs.Vm.Confinement

/-!
# Steps of a deployment

All that is done with instances, disks and deployments is stepwise: nothing of it notes the start of
a step without the end, or the end without the start. An operation on an instance is if its VM is
(`Vm.Stepwise`), and both kinds of VM are, the one that somebody else drives
(`Vm.stepwise_remote`) and the one that works through cloud and agent (`AgentVm.stepwise`).

So whoever looks at the stage while one of them is at work, or behind it, is told of each step as
`StageLog.OutcomeLaw` says (`Vm.Stepwise.outcomeLaw_perform`, `Instance.outcomeLaw_perform`,
`Deployment.outcomeLaw_delete`).
-/

set_option autoImplicit false

namespace VmDeploy

/-! ## Disks and stemcells -/

namespace Disk

variable {disk : Disk}

theorem stepwise_forget : Action.Stepwise disk.forget := by
  obtain ⟨record, _ | _⟩ := disk
  · exact .pure
  · exact .registry

theorem stepwise_delete : Action.Stepwise disk.delete := by
  refine .bind (.lift (.question rfl)) ?_
  rintro (e | _)
  · dsimp only
    split
    · exact .bind .warn fun _ => .bind stepwise_forget fun _ => .throw
    · exact .throw
  · exact stepwise_forget

end Disk

namespace Inventory

variable {disk : Disk} {pool : DiskPool} {vm : VmCid} {cid : DiskCid}

theorem stepwise_findCurrent : Action.Stepwise findCurrent :=
  .bind (.inContext .registry) fun _ => .pure

theorem stepwise_diskForCid : Action.Stepwise (diskForCid cid) := by
  refine .bind (.bind (.inContext .registry) fun _ => .pure) ?_
  rintro (_ | disk)
  · exact .bind .warn fun _ => .bind (.lift (.question rfl)) fun _ => .pure
  · exact .pure

theorem stepwise_create : Action.Stepwise (create pool vm) := by
  refine .bind (.inContext .cloud) fun cid => .bind (.lift (.question rfl)) ?_
  rintro (saveError | record)
  · refine .bind (.lift (.question rfl)) ?_
    rintro (deleteError | _)
    · exact .bind .warn fun _ => .throw
    · exact .throw
  · exact .pure

theorem stepwise_setCurrent : Action.Stepwise (setCurrent disk) :=
  .inContext .registry

/-- The sweep of the unused disks is stepwise. -/
theorem stepwise_deleteUnused : Action.Stepwise deleteUnused := by
  refine .bind (.inContext (.bind (.inContext .registry) fun _ => ?_)) fun disks => ?_
  · exact .bind (.inContext .registry) fun _ => .pure
  · exact .forM fun disk => .deletionStep disk.stepwise_delete

end Inventory

/-! ## VMs -/

/-- A VM that does all it is asked stepwise. -/
def Vm.Stepwise (vm : Vm) : Prop :=
  ∀ request : VmRequest, Action.Stepwise (vm.perform request)

/-- Somebody else notes no steps. -/
theorem Vm.stepwise_remote (cid : VmCid) (ref : VmRef) : (Vm.remote cid ref).Stepwise := by
  intro request
  rw [perform_remote]
  exact .question (q := .vm ref request) rfl

namespace AgentVm

variable (vm : AgentVm) {pool : DiskPool} {disk old new : Disk}

theorem stepwise_createDiskStep : Action.Stepwise (vm.createDiskStep pool) :=
  .step Inventory.stepwise_create

theorem stepwise_attachDisk : Action.Stepwise (vm.attachDisk disk) :=
  .bind (.inContext .cloud) fun _ => .inContext .agent

theorem stepwise_migrateDiskStep : Action.Stepwise (vm.migrateDiskStep old new) :=
  .step (.inContext .agent)

theorem stepwise_detachDiskStep : Action.Stepwise (vm.detachDiskStep disk) :=
  .step (.bind (.inContext .agent) fun _ => .inContext .cloud)

theorem stepwise_updateDisks : Action.Stepwise (vm.updateDisks pool) := by
  have attach (disk : Disk) : Action.Stepwise (vm.attachDiskStep disk) :=
    .step vm.stepwise_attachDisk
  rw [updateDisks]
  split
  · exact .pure
  refine .bind Inventory.stepwise_findCurrent fun current => ?_
  refine .bind ?_ fun disk => .bind Inventory.stepwise_setCurrent fun _ => .pure
  cases current with
  | none => exact .bind vm.stepwise_createDiskStep fun disk => .bind (attach disk) fun _ => .pure
  | some old =>
    rw [convergeDisk]
    split
    · refine .bind vm.stepwise_createDiskStep fun new => .bind (attach new) fun _ => ?_
      refine .bind vm.stepwise_migrateDiskStep fun _ => ?_
      exact .bind vm.stepwise_detachDiskStep fun _ => .pure
    · exact .bind (attach old) fun _ => .pure

theorem stepwise_disks : Action.Stepwise vm.disks :=
  .bind (.inContext .agent) fun _ => .mapM fun _ => Inventory.stepwise_diskForCid

/-- A VM that works through cloud and agent performs the steps of a change of its disk. -/
theorem stepwise : (Vm.ofAgent vm).Stepwise := by
  intro request
  let silent (q : ServiceQuestion) : Prop := q.marksStep = false
  cases request with
  | «exists» => exact .inContext .cloud
  | waitUntilReady timeout delay =>
    exact .inContext (.ofResult (.of_asks
      (Retry.asks_untilTimeout (P := silent) rfl rfl (vm.asks_ping rfl) timeout)))
  | updateDisks pool => exact vm.stepwise_updateDisks
  | stop | apply _ | start | unmountDisk _ => exact .agent
  | waitToBeRunning attempts delay =>
    exact .inContext (.ofResult (.of_asks
      (Retry.asks_attempts (P := silent) rfl (vm.asks_pollJobs rfl) attempts)))
  | attachDisk disk => exact vm.stepwise_attachDisk
  | detachDisk disk => exact .inContext .cloud
  | disks => exact vm.stepwise_disks
  | delete => exact .cloud

end AgentVm

/-! ## Instances -/

namespace InstanceAction

open Instance (move act)

variable {α β : Type} {i : Instance} {next : Lifecycle}

/-- An operation that notes starts and ends of steps of an instance only by performing them. -/
abbrev Stepwise (x : InstanceAction α) (i : Instance) : Prop :=
  ServiceProgram.Stepwise (x.run.run i)

namespace Stepwise

theorem move : Stepwise (move next) i := by
  rw [Stepwise, run_move]
  split <;> exact .done

theorem act {x : Action α} (stepwise : x.Stepwise) : Stepwise (act x) i :=
  ServiceProgram.Stepwise.map stepwise

/-- What follows an action finds the instance as it was. -/
theorem act_bind {x : Action α} {f : α → InstanceAction β} (first : x.Stepwise)
    (second : ∀ a, Stepwise (f a) i) : Stepwise (Instance.act x >>= f) i := by
  rw [Stepwise, ExceptT.run_bind, StateT.run_bind]
  show ServiceProgram.Stepwise ((x.run >>= fun r => pure (r, i)) >>= _)
  rw [bind_assoc]
  refine ServiceProgram.Stepwise.bind first ?_
  rintro (f | a)
  · exact .done
  · exact second a

/-- An operation that enters a state finds the instance in it, if it finds it at all. -/
theorem enter {f : Instance → InstanceAction α}
    (inside : Stepwise (f (i.movedTo next)) (i.movedTo next)) :
    Stepwise (do Instance.move next; let i ← getThe Instance; f i) i := by
  rw [Stepwise, ExceptT.run_bind, StateT.run_bind, run_move]
  split
  · rw [pure_bind]
    exact inside
  · exact .done

end Stepwise

end InstanceAction

namespace Instance

variable {i : Instance} {manifest : Manifest} {timeout delay : Duration}

theorem stepwise_stopTunnel {tunnel : TunnelRef} : (stopTunnel tunnel).Stepwise := by
  refine .bind (.question rfl) ?_
  rintro (e | _)
  · exact .question rfl
  · exact .done

theorem stepwise_startTunnel {tunnel : TunnelRef} : Action.Stepwise (startTunnel tunnel) := by
  refine .inContext (.bind (.lift (.question rfl)) fun started => ?_)
  refine .bind (.forM fun _ => .warn) fun _ => ?_
  split
  · exact .pure
  · exact .throw
  · exact .throw

theorem stepwise_withTunnel {options : TunnelOptions} {x : Action Unit} (inside : x.Stepwise) :
    Action.Stepwise (withTunnel options x) := by
  have works (tunnel : TunnelRef) : Action.Stepwise (do startTunnel tunnel; x) :=
    .bind stepwise_startTunnel fun _ => inside
  refine ServiceProgram.Stepwise.bind (.question rfl) fun tunnel => ?_
  exact .bind (works tunnel) fun _ => .bind stepwise_stopTunnel fun _ => .done

/-- A tunnel that is up by the way notes no steps. -/
theorem stepwise_waitUntilReady {server : SettingsServer} {access : TunnelAccess}
    (vm : i.vm.Stepwise) : (waitUntilReady server access).Stepwise i := by
  refine .enter (.act (.step ?_))
  split
  · exact stepwise_withTunnel (vm (.waitUntilReady _ _))
  · exact vm (.waitUntilReady _ _)

theorem stepwise_updateDisks (vm : i.vm.Stepwise) : (updateDisks manifest).Stepwise i := by
  refine .enter ?_
  split
  · exact .done
  · exact .act (.inContext (vm (.updateDisks _)))

theorem stepwise_pushState {spec : ApplySpec} (vm : i.vm.Stepwise) :
    Action.Stepwise (i.pushState spec) := by
  refine .step (.bind (.inContext (vm .stop)) fun _ => ?_)
  exact .bind (.inContext (vm (.apply spec))) fun _ => .inContext (vm .start)

theorem stepwise_waitForJobs {watch : WatchTime} (vm : i.vm.Stepwise) :
    Action.Stepwise (i.waitForJobs watch) := by
  rw [waitForJobs]
  split
  · exact .throw
  · exact .step (.bind (.lift (.question rfl)) fun _ => vm (.waitToBeRunning _ _))

theorem stepwise_updateJobs {image : StemcellApplySpec} (vm : i.vm.Stepwise) :
    (updateJobs manifest image).Stepwise i := by
  refine .enter (.act_bind (.inContext (.question rfl)) fun state => ?_)
  refine .act_bind (stepwise_pushState vm) fun _ => ?_
  exact .act_bind (stepwise_waitForJobs vm) fun _ => .move

theorem stepwise_shutDown (vm : i.vm.Stepwise) : Action.Stepwise (i.shutDown timeout delay) := by
  refine .bind (.lift (Action.Stepwise.step (.inContext (vm (.waitUntilReady _ _))))) ?_
  rintro (f | _)
  · exact .warn
  · refine .bind (.step (vm .stop)) fun _ => .bind (.inContext (vm .disks)) fun disks => ?_
    exact .forM fun disk => .step (.inContext (vm (.unmountDisk disk)))

theorem stepwise_delete (vm : i.vm.Stepwise) : (delete timeout delay).Stepwise i := by
  have deletes : Action.Stepwise
      (Action.deletionStep s!"Deleting VM '{i.vm.cid.text}'" .vmNotFound i.vm.delete) :=
    .deletionStep (vm .delete)
  rw [delete_eq]
  refine .enter (.act_bind (.bind (.inContext (vm .exists)) fun present => ?_) fun _ => .move)
  cases present with
  | false => exact deletes
  | true => exact .bind (stepwise_shutDown vm) fun _ => deletes

/-- All that an instance is asked is done stepwise if its VM works so. -/
theorem stepwise_perform (vm : i.vm.Stepwise) (request : InstanceRequest) :
    request.perform.Stepwise i := by
  cases request with
  | waitUntilReady server access => exact stepwise_waitUntilReady vm
  | updateDisks manifest => exact stepwise_updateDisks vm
  | updateJobs manifest image => exact stepwise_updateJobs vm
  | delete pingTimeout pingDelay => exact stepwise_delete vm
  | disks => exact .act (.inContext (vm .disks))

end Instance

/-! ## Teardowns -/

namespace Deployment

variable {α : Type} {delete : α → ServiceProgram (Except Failure Unit × α)} {xs : List α}

theorem stepwise_deleteInTurn (each : ∀ x ∈ xs, (delete x).Stepwise) :
    (deleteInTurn delete xs).Stepwise := by
  induction xs with
  | nil => exact .done
  | cons x xs ih =>
    obtain ⟨here, later⟩ := List.forall_mem_cons.mp each
    refine .bind here ?_
    rintro ⟨f | _, x'⟩
    · exact .done
    · exact ih later

theorem stepwise_deleteFromBack (each : ∀ x ∈ xs, (delete x).Stepwise) :
    (deleteFromBack delete xs).Stepwise :=
  .map (stepwise_deleteInTurn fun x mem => each x (List.mem_reverse.mp mem))

/-- The teardown of a deployment is stepwise. -/
theorem stepwise_delete (d : Deployment) (vms : ∀ i ∈ d.instances, i.vm.Stepwise) :
    d.delete.Stepwise := by
  have instances (i : Instance) (mem : i ∈ d.instances) : (d.deleteInstance i).Stepwise :=
    Instance.stepwise_delete (vms i mem)
  have disks (disk : Disk) (_ : disk ∈ d.disks) : (deleteDisk disk).Stepwise :=
    .map (Action.Stepwise.deletionStep disk.stepwise_delete)
  have stemcells (s : Stemcell) (_ : s ∈ d.stemcells) : (deleteStemcell s).Stepwise :=
    .map (Action.Stepwise.deletionStep .cloud)
  refine .bind (stepwise_deleteFromBack instances) ?_
  rintro ⟨f | _, left⟩
  · exact .done
  refine .bind (stepwise_deleteFromBack disks) ?_
  rintro ⟨f | _, left⟩
  · exact .done
  · exact .map (stepwise_deleteFromBack stemcells)

end Deployment

/-! ## What the stage tells meanwhile -/

section

variable {σ : Type} {env : Environment services σ} {stage : σ → StageLog} {s s' : σ}
  {name : String}

/-- While a VM does what it is asked, and behind it, the stage tells of its steps by the law. -/
theorem Vm.Stepwise.outcomeLaw_perform {vm : Vm} (stepwise : vm.Stepwise) (request : VmRequest)
    (keeps : env.KeepsStage stage) (new : stage s = { name })
    (reaches : Program.Reaches env (vm.perform request).run s s') (step : String) :
    (stage s').OutcomeLaw step :=
  ((stepwise request).outcomeCase keeps new reaches step).law

/-- So it does while an instance does what it is asked, on a VM of either kind. -/
theorem Instance.outcomeLaw_perform {i : Instance} (vm : i.vm.Stepwise)
    (request : InstanceRequest) (keeps : env.KeepsStage stage) (new : stage s = { name })
    (reaches : Program.Reaches env (request.perform.run.run i) s s') (step : String) :
    (stage s').OutcomeLaw step :=
  ((Instance.stepwise_perform vm request).outcomeCase keeps new reaches step).law

/-- So it does while the disks are swept that nobody uses. -/
theorem Inventory.outcomeLaw_deleteUnused (keeps : env.KeepsStage stage) (new : stage s = { name })
    (reaches : Program.Reaches env deleteUnused.run s s') (step : String) :
    (stage s').OutcomeLaw step :=
  (stepwise_deleteUnused.outcomeCase keeps new reaches step).law

/-- So it does while a deployment is torn down, however far that comes. -/
theorem Deployment.outcomeLaw_delete (d : Deployment) (vms : ∀ i ∈ d.instances, i.vm.Stepwise)
    (keeps : env.KeepsStage stage) (new : stage s = { name })
    (reaches : Program.Reaches env d.delete s s') (step : String) :
    (stage s').OutcomeLaw step :=
  ((d.stepwise_delete vms).outcomeCase keeps new reaches step).law

end

end VmDeploy
