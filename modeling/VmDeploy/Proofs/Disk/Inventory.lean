import VmDeploy.Disk.Inventory
import VmDeploy.Proofs.Services.Calls

/-!
# What the inventory does

The two operations that make and delete disks in the cloud, told call by call. Making a disk
ends in one of three ways (`Inventory.Creates`): the cloud refuses, the disk is recorded, or
it is not recorded and its deletion is asked for. Deleting one (`Disk.Deletes`) asks the
registry to forget a tracked disk only after the cloud has said that the disk is gone.

Every run of the operations is one of these (`Inventory.creates_of_performs`,
`Disk.deletes_of_performs`), in whatever environment.
-/

set_option autoImplicit false

namespace VmDeploy

variable {σ : Type} {env : Environment services σ} {s s' : σ} {calls : List (Exchange σ)}

namespace Inventory

/-- The ways in which the making of a disk goes. -/
inductive Creates (env : Environment services σ) (pool : DiskPool) (vm : VmCid) (s : σ) :
    List (Exchange σ) → Except Failure Disk → σ → Prop
  /-- The cloud makes no disk. -/
  | refused {e : CloudError} {f : Failure} {s' : σ}
      (asked : env s (.cloud (.createDisk pool.diskSize pool.cloudProperties vm)) (.error e) s') :
      Creates env pool vm s
        [.cloud s (.createDisk pool.diskSize pool.cloudProperties vm) (.error e)] (.error f) s'
  /-- The disk is made and recorded. -/
  | recorded {cid : DiskCid} {record : DiskRecord} {s₁ s' : σ}
      (made : env s (.cloud (.createDisk pool.diskSize pool.cloudProperties vm)) (.ok cid) s₁)
      (saved : env s₁ (.registry (.save cid pool.diskSize pool.cloudProperties)) (.ok record) s') :
      Creates env pool vm s
        [.cloud s (.createDisk pool.diskSize pool.cloudProperties vm) (.ok cid),
          .registry s₁ (.save cid pool.diskSize pool.cloudProperties) (.ok record)]
        (.ok (.ofRecord record)) s'
  /-- The disk is made and not recorded, and the cloud is asked to delete it. -/
  | withdrawn {cid : DiskCid} {e : RegistryError} {answer : Except CloudError Unit}
      {f : Failure} {s₁ s₂ s' : σ}
      (made : env s (.cloud (.createDisk pool.diskSize pool.cloudProperties vm)) (.ok cid) s₁)
      (unsaved : env s₁ (.registry (.save cid pool.diskSize pool.cloudProperties)) (.error e) s₂)
      (deleted : env s₂ (.cloud (.deleteDisk cid)) answer s') :
      Creates env pool vm s
        [.cloud s (.createDisk pool.diskSize pool.cloudProperties vm) (.ok cid),
          .registry s₁ (.save cid pool.diskSize pool.cloudProperties) (.error e),
          .cloud s₂ (.deleteDisk cid) answer]
        (.error f) s'

/-- Every run of the making of a disk goes in one of these ways. -/
theorem creates_of_performs (quiet : env.Quiet) {pool : DiskPool} {vm : VmCid}
    {r : Except Failure Disk} (run : Performs env (create pool vm).run s calls r s') :
    Creates env pool vm s calls r s' := by
  rcases Performs.run_bind_iff.mp run with
    ⟨f, rfl, failed⟩ | ⟨cid, s₁, _, _, rfl, succeeded, after⟩
  · obtain ⟨_, hr, ran⟩ := Performs.run_inContext_iff.mp failed
    obtain ⟨answer, rfl, rfl, asked⟩ := Performs.run_cloud_iff.mp ran
    cases answer with
    | ok _ => cases hr
    | error e => exact .refused asked
  obtain ⟨rfl, made⟩ := Performs.run_cloud_ok_iff.mp (Performs.run_inContext_ok_iff.mp succeeded)
  obtain ⟨answer, s₂, _, _, rfl, asked, ended⟩ := Performs.run_lift_bind_iff.mp after
  obtain ⟨rfl, saved⟩ := Performs.registry_iff.mp asked
  cases answer with
  | ok record =>
    obtain ⟨rfl, rfl, rfl⟩ := Performs.run_pure_iff.mp ended
    exact .recorded made saved
  | error e =>
    obtain ⟨answer, s₃, _, _, rfl, asked', thrown⟩ := Performs.run_lift_bind_iff.mp ended
    obtain ⟨rfl, deleted⟩ := Performs.cloud_iff.mp asked'
    -- A deletion that fails is only warned of; what the operation fails with is the save.
    cases answer with
    | ok _ =>
      obtain ⟨rfl, rfl, rfl⟩ := Performs.run_throw_iff.mp thrown
      exact .withdrawn made saved deleted
    | error e' =>
      obtain ⟨_, s₄, _, _, rfl, warned, last⟩ := Performs.run_lift_bind_iff.mp thrown
      obtain ⟨rfl, rfl⟩ := (Performs.warn_iff quiet).mp warned
      obtain ⟨rfl, rfl, rfl⟩ := Performs.run_throw_iff.mp last
      exact .withdrawn made saved deleted

end Inventory

namespace Disk

/-- Whether a deletion leaves no disk in the cloud: it succeeded, or there was none. -/
def Gone : Except CloudError Unit → Prop
  | .ok _ => True
  | .error e => e.is .diskNotFound

/-- The ways in which the deletion of a disk goes. -/
inductive Deletes (env : Environment services σ) (d : Disk) (s : σ) :
    List (Exchange σ) → σ → Prop
  /-- Nothing is done in the registry: the disk may still be there, or it has no record. -/
  | stopped {answer : Except CloudError Unit} {s' : σ}
      (asked : env s (.cloud (.deleteDisk d.cid)) answer s')
      (kept : ¬ Gone answer ∨ d.tracked = false) :
      Deletes env d s [.cloud s (.deleteDisk d.cid) answer] s'
  /-- The disk is gone, and the registry is asked to forget it. -/
  | forgotten {answer : Except CloudError Unit} {answer' : Except RegistryError Unit} {s₁ s' : σ}
      (asked : env s (.cloud (.deleteDisk d.cid)) answer s₁) (gone : Gone answer)
      (tracked : d.tracked = true)
      (removed : env s₁ (.registry (.delete d.record.id)) answer' s') :
      Deletes env d s
        [.cloud s (.deleteDisk d.cid) answer, .registry s₁ (.delete d.record.id) answer'] s'

/-- A disk is forgotten with one call of the registry if it is tracked, and with none if not. -/
theorem run_forget {d : Disk} {r : Except Failure Unit}
    (run : Performs env d.forget.run s calls r s') :
    (d.tracked = false ∧ calls = [] ∧ s' = s) ∨
      ∃ answer : Except RegistryError Unit, d.tracked = true ∧
        calls = [.registry s (.delete d.record.id) answer] ∧
        env s (.registry (.delete d.record.id)) answer s' := by
  cases tracked : d.tracked with
  | true =>
    simp only [forget, tracked] at run
    obtain ⟨answer, rfl, rfl, removed⟩ := Performs.run_registry_iff.mp run
    exact .inr ⟨answer, rfl, rfl, removed⟩
  | false =>
    simp only [forget, tracked, Bool.false_eq_true] at run
    obtain ⟨rfl, rfl, rfl⟩ := Performs.run_pure_iff.mp run
    exact .inl ⟨rfl, rfl, rfl⟩

/-- A disk that is gone is forgotten if it is tracked. -/
theorem deletes_of_gone {d : Disk} {answer : Except CloudError Unit} {s₁ : σ}
    (asked : env s (.cloud (.deleteDisk d.cid)) answer s₁) (gone : Gone answer)
    {r : Except Failure Unit} (run : Performs env d.forget.run s₁ calls r s') :
    Deletes env d s (.cloud s (.deleteDisk d.cid) answer :: calls) s' := by
  rcases run_forget run with ⟨untracked, rfl, rfl⟩ | ⟨answer', tracked, rfl, removed⟩
  · exact .stopped asked (.inr untracked)
  · exact .forgotten asked gone tracked removed

/-- Every run of the deletion of a disk goes in one of these ways. -/
theorem deletes_of_performs (quiet : env.Quiet) {d : Disk} {r : Except Failure Unit}
    (run : Performs env d.delete.run s calls r s') : Deletes env d s calls s' := by
  obtain ⟨answer, s₁, _, _, rfl, call, after⟩ := Performs.run_lift_bind_iff.mp run
  obtain ⟨rfl, asked⟩ := Performs.cloud_iff.mp call
  cases answer with
  | ok _ => exact deletes_of_gone asked trivial after
  | error e =>
    by_cases gone : e.is .diskNotFound = true
    · simp only [gone, if_true] at after
      obtain ⟨_, s₂, _, _, rfl, warned, last⟩ := Performs.run_lift_bind_iff.mp after
      obtain ⟨rfl, rfl⟩ := (Performs.warn_iff quiet).mp warned
      rcases Performs.run_bind_iff.mp last with
        ⟨_, _, failed⟩ | ⟨_, s₃, _, _, rfl, succeeded, thrown⟩
      · exact deletes_of_gone asked gone failed
      · obtain ⟨rfl, rfl, rfl⟩ := Performs.run_throw_iff.mp thrown
        rw [List.append_nil]
        exact deletes_of_gone asked gone succeeded
    · simp only [gone] at after
      obtain ⟨rfl, rfl, rfl⟩ := Performs.run_throw_iff.mp after
      exact .stopped asked (.inl gone)

end Disk

end VmDeploy
