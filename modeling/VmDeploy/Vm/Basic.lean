import VmDeploy.Disk.Inventory

/-!
# VMs

A VM is what can be done with it. `Vm.remote` asks somebody else to do it;
`Vm.ofAgent`, in its own module, works through the cloud and the agent inside
the VM.
-/

set_option autoImplicit false

namespace VmDeploy

/-- A deployed VM. -/
structure Vm where
  cid : VmCid
  /-- Whether the cloud has it. -/
  exists? : Action Bool
  /-- Waits until its agent answers. -/
  waitUntilReady : (timeout delay : Duration) → Action Unit
  /-- Makes its disk match a pool; the result is the disks attached afterwards. -/
  updateDisks : DiskPool → Action (List Disk)
  stop : Action Unit
  apply : ApplySpec → Action Unit
  start : Action Unit
  /-- Waits until its jobs run. -/
  waitToBeRunning : (maxAttempts : UInt32) → (delay : Duration) → Action Unit
  attachDisk : Disk → Action Unit
  detachDisk : Disk → Action Unit
  /-- The disks that are mounted. -/
  disks : Action (List Disk)
  unmountDisk : Disk → Action Unit
  delete : Action Unit

/-- A VM that somebody else drives. -/
def Vm.remote (cid : VmCid) (ref : VmRef) : Vm where
  cid := cid
  exists? := Services.vm ref .exists
  waitUntilReady timeout delay := Services.vm ref (.waitUntilReady timeout delay)
  updateDisks pool := Services.vm ref (.updateDisks pool)
  stop := Services.vm ref .stop
  apply spec := Services.vm ref (.apply spec)
  start := Services.vm ref .start
  waitToBeRunning maxAttempts delay := Services.vm ref (.waitToBeRunning maxAttempts delay)
  attachDisk disk := Services.vm ref (.attachDisk disk)
  detachDisk disk := Services.vm ref (.detachDisk disk)
  disks := Services.vm ref .disks
  unmountDisk disk := Services.vm ref (.unmountDisk disk)
  delete := Services.vm ref .delete

end VmDeploy
