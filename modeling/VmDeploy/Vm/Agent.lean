import VmDeploy.Vm.Basic

/-!
# VMs driven through cloud and agent

The cloud owns the VM and its disks, the agent inside the VM its jobs and
mounts.

`AgentVm.updateDisks` makes the persistent disk match a pool. Without a
current disk it makes one and attaches it. A current disk that does not match
is replaced: the new disk is attached, the content copied, and only then the
old disk detached. A current disk that matches is attached again. The disk
becomes the current one last.

This is the deployer's `AgentVm`, its `update_disks` with a step each for
creating, attaching, migrating and detaching a disk.
-/

set_option autoImplicit false

namespace VmDeploy

/-- A VM with the agent inside it. -/
structure AgentVm where
  cid : VmCid
  agent : AgentRef
  deriving DecidableEq, Repr

namespace AgentVm

variable (vm : AgentVm)

/-- Whether the cloud has the VM. -/
def exists? : Action Bool :=
  Action.inContext s!"Checking existence of VM '{vm.cid.text}'" (Action.cloud (.hasVm vm.cid))

/-- One ping; an agent that does not answer may still be starting. -/
def ping : ServiceProgram (Attempt Failure) := do
  match ← (Action.inContext "Pinging agent" (Action.agent vm.agent .ping)).run with
  | .ok _ => return .succeeded
  | .error f => return .failed f

/-- Waits until the agent answers. -/
def waitUntilReady (timeout delay : Duration) : Action Unit :=
  Action.inContext s!"Waiting for the agent on VM '{vm.cid.text}'"
    (Action.ofResult Failure.ofRetry (Retry.untilTimeout timeout delay vm.ping))

/-- Attaches a disk in the cloud and mounts it. -/
def attachDisk (disk : Disk) : Action Unit := do
  Action.inContext s!"Attaching disk '{disk.cid.text}' in the cloud"
    (Action.cloud (.attachDisk vm.cid disk.cid))
  Action.inContext s!"Mounting disk '{disk.cid.text}'"
    (Action.agent vm.agent (.mountDisk disk.cid))

/-- Detaches a disk in the cloud. -/
def detachDisk (disk : Disk) : Action Unit :=
  Action.inContext s!"Detaching disk '{disk.cid.text}' in the cloud"
    (Action.cloud (.detachDisk vm.cid disk.cid))

/-- Makes a disk as a step. -/
def createDiskStep (pool : DiskPool) : Action Disk :=
  Action.step "Creating disk" (Inventory.create pool vm.cid)

/-- Attaches a disk as a step. -/
def attachDiskStep (disk : Disk) : Action Unit :=
  Action.step s!"Attaching disk '{disk.cid.text}' to VM '{vm.cid.text}'" (vm.attachDisk disk)

/-- Copies the content of one disk to another as a step. -/
def migrateDiskStep (old new : Disk) : Action Unit :=
  Action.step s!"Migrating disk content from '{old.cid.text}' to '{new.cid.text}'"
    (Action.inContext "Migrating disk content" (Action.agent vm.agent .migrateDisk))

/-- Unmounts and detaches a disk as a step. -/
def detachDiskStep (disk : Disk) : Action Unit :=
  Action.step s!"Detaching disk '{disk.cid.text}'" do
    Action.inContext s!"Unmounting disk '{disk.cid.text}'"
      (Action.agent vm.agent (.unmountDisk disk.cid))
    vm.detachDisk disk

/-- Brings a disk that matches the pool into the VM. -/
def convergeDisk (pool : DiskPool) : (current : Option Disk) → Action Disk
  | none => do
    let disk ← vm.createDiskStep pool
    vm.attachDiskStep disk
    return disk
  | some old => do
    if old.needsMigration pool.diskSize pool.cloudProperties then
      let new ← vm.createDiskStep pool
      vm.attachDiskStep new
      vm.migrateDiskStep old new
      vm.detachDiskStep old
      return new
    else
      vm.attachDiskStep old
      return old

/-- Makes the persistent disk match a pool; a pool of size zero asks for none. -/
def updateDisks (pool : DiskPool) : Action (List Disk) := do
  if pool.diskSize = 0 then return []
  else
    let current ← Inventory.findCurrent
    let disk ← vm.convergeDisk pool current
    Inventory.setCurrent disk
    return [disk]

/-- One look at the jobs. -/
def pollJobs : ServiceProgram (Attempt Failure) := do
  match ← (Action.inContext "Getting agent state" (Action.agent vm.agent .getState)).run with
  | .ok (state : AgentState) =>
    if state.isRunning then return .succeeded
    else return .failed (.plain s!"Job state is '{state.jobState}'")
  | .error f => return .failed f

/-- Waits until the jobs run. -/
def waitToBeRunning (maxAttempts : UInt32) (delay : Duration) : Action Unit :=
  Action.inContext "Waiting for jobs to be running"
    (Action.ofResult Failure.ofRetry (Retry.attempts maxAttempts delay vm.pollJobs))

/-- The disks that the agent has mounted. -/
def disks : Action (List Disk) := do
  let cids : List DiskCid ←
    Action.inContext "Listing disks mounted by the agent" (Action.agent vm.agent .listDisk)
  cids.mapM Inventory.diskForCid

end AgentVm

/-- A VM driven through cloud and agent. -/
def Vm.ofAgent (vm : AgentVm) : Vm where
  cid := vm.cid
  exists? := vm.exists?
  waitUntilReady := vm.waitUntilReady
  updateDisks := vm.updateDisks
  stop := Action.agent vm.agent .stop
  apply spec := Action.agent vm.agent (.apply spec)
  start := Action.agent vm.agent .start
  waitToBeRunning := vm.waitToBeRunning
  attachDisk := vm.attachDisk
  detachDisk := vm.detachDisk
  disks := vm.disks
  unmountDisk disk := Action.agent vm.agent (.unmountDisk disk.cid)
  delete := Action.cloud (.deleteVm vm.cid)

end VmDeploy
