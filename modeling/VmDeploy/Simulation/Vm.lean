import VmDeploy.Services
import VmDeploy.Simulation.Cloud

/-!
# A VM that is only asked

It notes what it is asked and how long it is to wait, and refuses the methods
that it was told to refuse.
-/

set_option autoImplicit false

namespace VmDeploy

/-- The name of what is asked of a VM. -/
def VmRequest.method : VmRequest → String
  | .exists => "exists"
  | .waitUntilReady _ _ => "wait_until_ready"
  | .updateDisks _ => "update_disks"
  | .stop => "stop"
  | .apply _ => "apply"
  | .start => "start"
  | .waitToBeRunning _ _ => "wait_to_be_running"
  | .attachDisk _ => "attach_disk"
  | .detachDisk _ => "detach_disk"
  | .disks => "disks"
  | .unmountDisk _ => "unmount_disk"
  | .delete => "delete"

/-- The disk that is asked about. -/
def VmRequest.disk? : VmRequest → Option Disk
  | .attachDisk disk | .detachDisk disk | .unmountDisk disk => some disk
  | _ => none

namespace Simulation

/-- A simulated VM. -/
structure Vm where
  /-- What it was asked, each method with its disk. -/
  calls : List String := []
  missing : Bool := false
  faults : Keyed String := []
  deleteFault : Option CloudErrorType := none
  disks : List Disk := []
  readyWaits : List (Duration × Duration) := []
  runningWaits : List (UInt32 × Duration) := []
  applied : List ApplySpec := []
  deriving Inhabited

namespace Vm

/-- Tells it to refuse a method. -/
def refuse (method reason : String) (v : Vm) : Vm :=
  { v with faults := Keyed.insert method reason v.faults }

/-- A request as it is noted. -/
def callText (request : VmRequest) : String :=
  match request.disk? with
  | some disk => s!"{request.method}:{disk.cid.text}"
  | none => request.method

/-- Notes a request. -/
def note (request : VmRequest) (v : Vm) : Vm :=
  let v := { v with calls := v.calls ++ [callText request] }
  match request with
  | .waitUntilReady timeout delay => { v with readyWaits := v.readyWaits ++ [(timeout, delay)] }
  | .waitToBeRunning attempts delay =>
    { v with runningWaits := v.runningWaits ++ [(attempts, delay)] }
  | _ => v

/-- Answers a request. -/
def answer (request : VmRequest) (v : Vm) : Except Failure request.Value × Vm :=
  let v := v.note request
  match Keyed.find? request.method v.faults with
  | some message => (.error (.plain message), v)
  | none =>
    match request with
    | .exists => (.ok !v.missing, v)
    | .updateDisks _ | .disks => (.ok v.disks, v)
    | .apply spec => (.ok (), { v with applied := v.applied ++ [spec] })
    | .delete =>
      match v.deleteFault with
      | some type => (.error (.cloud (refusal "delete_vm" type)), v)
      | none => (.ok (), v)
    | .waitUntilReady _ _ | .stop | .start | .waitToBeRunning _ _ | .attachDisk _
    | .detachDisk _ | .unmountDisk _ => (.ok (), v)

end Vm

end Simulation

end VmDeploy
