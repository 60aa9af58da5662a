import VmDeploy.Proofs.Services.Keeping
import VmDeploy.Vm.Agent

/-!
# Sessions

A session is a sequence of orders about disks, as an operator gives them: disks are made,
found, made current and deleted, the disk of a VM is made to match a pool, unused disks are
swept away. The handles on disks that an order yields may be used in any later one, however
stale they have become. An order that fails yields none, and the session goes on.

What a session keeps is found order by order (`DiskAccount.session`). Of the services it is
enough to know what a single call does to the account, where neither a disk nor a record is made
or removed, and what the making of a disk does (`DiskAccount`).
-/

set_option autoImplicit false

namespace VmDeploy

/-- What can be ordered about disks. Handles are named by their places among those that were
yielded so far. -/
inductive Order where
  | create (pool : DiskPool) (vm : VmCid)
  | updateDisks (vm : AgentVm) (pool : DiskPool)
  | deleteUnused
  | setCurrent (handle : Nat)
  | delete (handle : Nat)
  | findCurrent
  | findByCid (cid : DiskCid)
  | diskForCid (cid : DiskCid)
  | findUnused
  /-- Takes handles on the disks that are mounted in a VM. -/
  | disks (vm : AgentVm)

namespace Order

/-- What an order does, with the handles that it yields. -/
def action (handles : List Disk) : Order → Action (List Disk)
  | .create pool vm => do return [← Inventory.create pool vm]
  | .updateDisks vm pool => vm.updateDisks pool
  | .deleteUnused => do
    Inventory.deleteUnused
    return []
  | .setCurrent handle =>
    match handles[handle]? with
    | some disk => do
      Inventory.setCurrent disk
      return []
    | none => return []
  | .delete handle =>
    match handles[handle]? with
    | some disk => do
      disk.delete
      return []
    | none => return []
  | .findCurrent => do return (← Inventory.findCurrent).toList
  | .findByCid cid => do return (← Inventory.findByCid cid).toList
  | .diskForCid cid => do return [← Inventory.diskForCid cid]
  | .findUnused => Inventory.findUnused
  | .disks vm => vm.disks

/-- Whether an order is to delete the disk of a handle. -/
def isDelete : Order → Bool
  | .delete _ => true
  | _ => false

end Order

/-- Carries out orders one after the other. -/
def session : List Order → (handles : List Disk) → ServiceProgram Unit
  | [], _ => pure ()
  | order :: orders, handles => do
    match ← (order.action handles).run with
    | .ok yielded => session orders (handles ++ yielded)
    | .error _ => session orders handles

/-- Whether a request leaves the disks of the cloud as they are. -/
def CloudRequest.keepsDisks : CloudRequest → Bool
  | .createDisk _ _ _ | .deleteDisk _ => false
  | _ => true

/-- Whether a request leaves the records as they are. -/
def RegistryRequest.keepsRecords : RegistryRequest → Bool
  | .save _ _ _ | .delete _ => false
  | _ => true

/-- The handles on the records that a request finds. -/
def RegistryRequest.handles : (request : RegistryRequest) → request.Value → List Disk
  | .all, records => List.map Disk.ofRecord records
  | .find _, record | .findCurrent, record => (Option.map Disk.ofRecord record).toList
  | .save _ _ _, _ | .updateCurrent _, _ | .delete _, _ => []

section

variable {σ : Type} {env : Environment services σ}
  {P : List (Exchange σ) → σ → List Disk → Prop} {known : List Disk}

/-- An account that is kept by single calls that neither make nor remove anything, and by the
making of a disk. -/
structure DiskAccount (env : Environment services σ)
    (P : List (Exchange σ) → σ → List Disk → Prop) : Prop extends Account env P where
  cloud : ∀ {request} known, CloudRequest.keepsDisks request = true →
    Keeps env P known (Action.cloud request) fun _ => []
  agent : ∀ vm request known, Keeps env P known (Action.agent vm request) fun _ => []
  registry : ∀ {request} known, RegistryRequest.keepsRecords request = true →
    Keeps env P known (Action.registry request) request.handles
  create : ∀ pool vm known, Keeps env P known (Inventory.create pool vm) fun d => [d]
  untracked : ∀ {past s known} cid id now, P past s known →
    P past s (known ++ [Disk.untracked cid id now])

namespace DiskAccount

variable (account : DiskAccount env P)

include account

theorem findCurrent : Keeps env P known Inventory.findCurrent Option.toList :=
  .bind account.toAccount (.inContext (account.registry known rfl)) fun _ =>
    .pure account.toAccount (List.subset_append_right _ _)

theorem findByCid (cid : DiskCid) :
    Keeps env P known (Inventory.findByCid cid) Option.toList :=
  .bind account.toAccount (.inContext (account.registry known rfl)) fun _ =>
    .pure account.toAccount (List.subset_append_right _ _)

theorem setCurrent (disk : Disk) :
    Keeps env P known (Inventory.setCurrent disk) fun _ => [] :=
  .inContext (account.registry known rfl)

/-- A disk that is not recorded gets a handle that is not tracked. -/
theorem diskForCid (cid : DiskCid) : Keeps env P known (Inventory.diskForCid cid) fun d => [d] := by
  refine .bind account.toAccount (account.findByCid cid) ?_
  intro found
  cases found with
  | some disk => exact .pure account.toAccount (by simp)
  | none =>
    refine .bind account.toAccount (.lift_quiet account.toAccount rfl) ?_
    intro _
    refine .bind account.toAccount (.lift_quiet account.toAccount rfl) ?_
    rintro ⟨id, now⟩
    intro past s calls r s' holds run
    obtain ⟨rfl, rfl, rfl⟩ := Performs.run_pure_iff.mp run
    rw [List.append_nil]
    refine ⟨holds, ?_⟩
    intro disk yielded
    cases yielded
    exact account.untracked cid id now holds

/-- The unused disks are among all that are recorded. -/
theorem findUnused : Keeps env P known Inventory.findUnused id := by
  refine .bind account.toAccount (.inContext (account.registry known rfl)) ?_
  intro records
  refine .bind account.toAccount (.inContext (account.registry _ rfl)) ?_
  intro current
  refine .pure account.toAccount ?_
  intro disk mem
  obtain ⟨record, unused, rfl⟩ := List.mem_map.mp mem
  refine List.mem_append_left _ (List.mem_append_right _ ?_)
  exact List.mem_map_of_mem (List.mem_filter.mp unused).1

theorem disks (vm : AgentVm) : Keeps env P known vm.disks id := by
  refine .bind account.toAccount (.inContext (account.agent vm.agent .listDisk known)) ?_
  intro cids
  exact .mapM account.toAccount fun cid _ => account.diskForCid cid

theorem attachDiskStep (vm : AgentVm) (disk : Disk) :
    Keeps env P known (vm.attachDiskStep disk) fun _ => [] :=
  .step account.toAccount (.bind account.toAccount (.inContext (account.cloud known rfl)) fun _ =>
    .inContext (account.agent _ _ _))

theorem migrateDiskStep (vm : AgentVm) (old new : Disk) :
    Keeps env P known (vm.migrateDiskStep old new) fun _ => [] :=
  .step account.toAccount (.inContext (account.agent _ _ _))

theorem detachDiskStep (vm : AgentVm) (disk : Disk) :
    Keeps env P known (vm.detachDiskStep disk) fun _ => [] :=
  .step account.toAccount (.bind account.toAccount (.inContext (account.agent _ _ _)) fun _ =>
    .inContext (account.cloud _ rfl))

theorem convergeDisk (vm : AgentVm) (pool : DiskPool) (current : Option Disk)
    (mem : current.toList ⊆ known) :
    Keeps env P known (vm.convergeDisk pool current) fun d => [d] := by
  have create : Keeps env P known (vm.createDiskStep pool) fun d => [d] :=
    .step account.toAccount (account.create pool vm.cid known)
  cases current with
  | none =>
    refine .bind account.toAccount create fun new => ?_
    refine .bind account.toAccount (account.attachDiskStep vm new) fun _ => ?_
    exact .pure account.toAccount (by simp)
  | some old =>
    cases differs : old.needsMigration pool.diskSize pool.cloudProperties with
    | true =>
      simp only [AgentVm.convergeDisk, differs, if_true]
      refine .bind account.toAccount create fun new => ?_
      refine .bind account.toAccount (account.attachDiskStep vm new) fun _ => ?_
      refine .bind account.toAccount (account.migrateDiskStep vm old new) fun _ => ?_
      refine .bind account.toAccount (account.detachDiskStep vm old) fun _ => ?_
      exact .pure account.toAccount (by simp)
    | false =>
      simp only [AgentVm.convergeDisk, differs, Bool.false_eq_true, if_false]
      refine .bind account.toAccount (account.attachDiskStep vm old) fun _ => ?_
      refine .pure account.toAccount ?_
      rw [List.append_nil]
      exact mem

theorem updateDisks (vm : AgentVm) (pool : DiskPool) :
    Keeps env P known (vm.updateDisks pool) id := by
  by_cases size : pool.diskSize = 0
  · simp only [AgentVm.updateDisks, size, if_true]
    exact .pure account.toAccount (by simp)
  · simp only [AgentVm.updateDisks, size, if_false]
    refine .bind account.toAccount account.findCurrent fun current => ?_
    refine .bind account.toAccount
      (account.convergeDisk vm pool current (List.subset_append_right _ _)) fun disk => ?_
    refine .bind account.toAccount (account.setCurrent disk) fun _ => ?_
    exact .pure account.toAccount (by simp)

/-- An order keeps the account if the sweep and the deletion of known disks do. -/
theorem order (o : Order)
    (sweep : Keeps env P known Inventory.deleteUnused fun _ => [])
    (deletion : o.isDelete = true → ∀ disk ∈ known, Keeps env P known disk.delete fun _ => []) :
    Keeps env P known (o.action known) id := by
  have done {x : Action Unit} (kept : Keeps env P known x fun _ => []) :
      Keeps env P known (do x; return []) id :=
    .bind account.toAccount kept fun _ => .pure account.toAccount (by simp)
  have nothing : Keeps env P known (pure []) id := .pure account.toAccount (by simp)
  cases o with
  | create pool vm =>
    exact .bind account.toAccount (account.create pool vm known) fun disk =>
      .pure account.toAccount (List.subset_append_right _ _)
  | updateDisks vm pool => exact account.updateDisks vm pool
  | deleteUnused => exact done sweep
  | setCurrent handle =>
    cases here : known[handle]? with
    | none => simpa only [Order.action, here] using nothing
    | some disk => simpa only [Order.action, here] using done (account.setCurrent disk)
  | delete handle =>
    cases here : known[handle]? with
    | none => simpa only [Order.action, here] using nothing
    | some disk =>
      have mem := List.mem_of_getElem? here
      simpa only [Order.action, here] using done (deletion rfl disk mem)
  | findCurrent =>
    exact .bind account.toAccount account.findCurrent fun _ =>
      .pure account.toAccount (List.subset_append_right _ _)
  | findByCid cid =>
    exact .bind account.toAccount (account.findByCid cid) fun _ =>
      .pure account.toAccount (List.subset_append_right _ _)
  | diskForCid cid =>
    exact .bind account.toAccount (account.diskForCid cid) fun _ =>
      .pure account.toAccount (List.subset_append_right _ _)
  | findUnused => exact account.findUnused
  | disks vm => exact account.disks vm

/-- A session keeps the account if its orders do. -/
theorem session (orders : List Order)
    (sweep : ∀ known, Keeps env P known Inventory.deleteUnused fun _ => [])
    (deletion : ∀ o ∈ orders, o.isDelete = true → ∀ known, ∀ disk ∈ known,
      Keeps env P known disk.delete fun _ => [])
    {past calls : List (Exchange σ)} {s s' : σ} {u : Unit} (holds : P past s known)
    (run : Performs env (VmDeploy.session orders known) s calls u s') :
    ∃ known', P (past ++ calls) s' known' := by
  induction orders generalizing past s calls known with
  | nil =>
    obtain ⟨rfl, -, rfl⟩ := Performs.pure_iff.mp run
    exact ⟨known, by rwa [List.append_nil]⟩
  | cons o orders ih =>
    obtain ⟨r, s₁, first, later, rfl, ordered, rest⟩ := Performs.bind_iff.mp run
    have keeps := account.order o (sweep known) fun isDelete =>
      deletion o List.mem_cons_self isDelete known
    have others : ∀ o ∈ orders, o.isDelete = true → ∀ known, ∀ disk ∈ known,
        Keeps env P known disk.delete fun _ => [] :=
      fun o mem => deletion o (List.mem_cons_of_mem _ mem)
    rw [← List.append_assoc]
    cases r with
    | ok yielded => exact ih others ((keeps holds ordered).2 yielded rfl) rest
    | error _ => exact ih others (keeps holds ordered).1 rest

end DiskAccount

end

end VmDeploy
