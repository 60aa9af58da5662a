import VmDeploy.Deployment
import VmDeploy.Simulation.World
import VmDeploy.Vm.Agent

/-!
# Sessions

A session works on a simulated world through handles that have names: the
instances, disks and stemcells that it made or found, and a deployment that
instances can be moved into.
-/

set_option autoImplicit false

namespace VmDeploy.Simulation

/-- The named handles of a session. -/
structure Session where
  world : World := {}
  settings : InstanceSettings := {}
  instances : Keyed Instance := []
  disks : Keyed Disk := []
  stemcells : Keyed Stemcell := []
  deployment : Option Deployment := none

/-- How the VM of an instance is driven. -/
inductive VmKind where
  /-- Through the cloud and an agent. -/
  | agent
  /-- By a simulated VM. -/
  | simulated
  deriving DecidableEq, Repr

namespace Session

variable {α : Type}

/-- Changes the world. -/
def change (f : World → World) (s : Session) : Session := { s with world := f s.world }

/-- Performs an action. -/
def perform (action : Action α) (s : Session) : Except Failure α × Session :=
  let (result, world) := s.world.perform action
  (result, { s with world })

/-- Takes a step and tells what could be seen of it. -/
def observe {β : Type} (step : Session → β × Session) (s : Session) : (β × Observation) × Session :=
  let before := s.change World.clearNotes
  let (result, after) := step before
  ((result, before.world.observe after.world), after)

/-- Records a disk that was made by somebody else. -/
def recordDisk (cid : DiskCid) (size : UInt64) (properties : CloudProperties) : Action Disk := do
  let record : DiskRecord ← Action.registry (.save cid size properties)
  return Disk.ofRecord record

/-- Takes a disk without recording it. -/
def untrackedDisk (cid : DiskCid) : Action Disk := do
  let (id, now) ← ExceptT.lift Services.freshRecord
  return Disk.untracked cid id now

/-- Makes an instance with a VM and, if it is needed, an agent of the same name. -/
def addInstance (name job : String) (index : UInt32) (kind : VmKind) (cid : VmCid)
    (s : Session) : Instance × Session :=
  let (vm, world) :=
    match kind with
    | .agent =>
      let (agent, world) := s.world.addAgent name
      (VmDeploy.Vm.ofAgent ⟨cid, agent⟩, world)
    | .simulated =>
      let (vm, world) := s.world.addVm name
      (VmDeploy.Vm.remote cid vm, world)
  let made : Instance := { job, index, vm, settings := s.settings }
  (made, { s with world, instances := Keyed.insert name made s.instances })

/-- Performs an operation on an instance. -/
def performOn (name : String) (i : Instance) (action : InstanceAction α) (s : Session) :
    Except Failure α × Session :=
  let ((result, i), world) := Program.run World.handler (action.run.run i) s.world
  (result, { s with world, instances := Keyed.insert name i s.instances })

/-- Keeps a disk under a name. -/
def keepDisk (name : Option String) (disk : Disk) (s : Session) : Session :=
  match name with
  | some name => { s with disks := Keyed.insert name disk s.disks }
  | none => s

/-- The handles of names; names without one are left out. -/
def handles (names : List String) (known : Keyed α) : List α :=
  names.filterMap fun name => Keyed.find? name known

/-- Moves instances into a deployment, with disks and stemcells. -/
def deploy (instances disks stemcells : List String) (pingTimeout pingDelay : Duration)
    (s : Session) : Session :=
  let deployment : Deployment := {
    instances := handles instances.eraseDups s.instances
    disks := handles disks s.disks
    stemcells := handles stemcells s.stemcells
    pingTimeout, pingDelay }
  { s with
    deployment := some deployment
    instances := instances.foldl (fun known name => Keyed.erase name known) s.instances }

/-- Deletes the deployment. -/
def deleteDeployment (d : Deployment) (s : Session) : Except Failure Unit × Session :=
  let ((result, d), world) := Program.run World.handler d.delete s.world
  (result, { s with world, deployment := some d })

end Session

end VmDeploy.Simulation
