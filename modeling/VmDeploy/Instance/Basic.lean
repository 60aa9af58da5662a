import VmDeploy.Config
import VmDeploy.Vm.Basic

/-!
# Instances

An instance is one slot of a job, `job/index`, and the VM that runs it. Each
operation first moves the instance along its lifecycle; where the lifecycle
does not allow the move, nothing else happens. A failed operation leaves the
instance where the move put it.

While an instance waits for its agent, a tunnel may forward the port of the
server that the agent reads its settings from. Every tunnel that is made is
started once and stopped once before the wait is over, however it ends.

These are the operations of the deployer's `Instance`: `wait_until_ready`,
`update_disks`, `update_jobs`, `delete` and `disks`.
-/

set_option autoImplicit false

namespace VmDeploy

/-- One slot of a job and the VM that runs it. -/
structure Instance where
  job : String
  index : UInt32
  vm : Vm
  settings : InstanceSettings
  lifecycle : Lifecycle := .unprovisioned

/-- An operation on an instance, which may move it also when it fails. -/
abbrev InstanceAction := ExceptT Failure (StateT Instance ServiceProgram)

/-- How many times jobs are looked at: as often as whole polling intervals, taken in
milliseconds, fit into the window, with at most thirty-two bits. -/
def watchAttempts (watch : WatchTime) (interval : Duration) : Except Failure UInt32 :=
  let window := watch.finish.toNat - watch.start.toNat
  if interval.toMillis = 0 then
    .error (.plain s!"Job poll interval must be at least 1ms, got {interval.text}")
  else .ok (UInt32.ofNat (min (window / interval.toMillis) (UInt32.size - 1)))

namespace Instance

/-- The name of the slot. -/
def slot (i : Instance) : String := s!"{i.job}/{i.index}"

/-- The diagnostic text of an instance. -/
def diagnostic (i : Instance) : String :=
  "Instance \x7b job_name: " ++ Text.Quoted.quote i.job
    ++ ", id: " ++ toString i.index.toNat
    ++ ", vm_cid: VmCid(" ++ Text.Quoted.quote i.vm.cid.text
    ++ "), lifecycle: " ++ i.lifecycle.debugText ++ ", .. \x7d"

/-- Moves the instance along its lifecycle. -/
def move (next : Lifecycle) : InstanceAction Unit := do
  let i ← getThe Instance
  if i.lifecycle.canMoveTo next then set { i with lifecycle := next }
  else throw (.lifecycle ⟨i.slot, i.lifecycle, next⟩)

/-- An action that leaves the instance alone. -/
def act {α : Type} (action : Action α) : InstanceAction α :=
  ExceptT.mk fun i => do return (← action.run, i)

/-- The disks that the agent has mounted. -/
def disks (i : Instance) : Action (List Disk) :=
  Action.inContext "Listing instance disks" i.vm.disks

/-- The forwarding of the port of a server, if server and tunnel are both set up. -/
def tunnelOptions? (server : SettingsServer) (access : TunnelAccess) : Option TunnelOptions :=
  if server.isEmpty || access.isEmpty then none
  else some {
    host := access.host, port := access.port, user := access.user, password := access.password,
    privateKey := access.privateKey, localPort := server.port, remotePort := server.port }

/-- Stops a tunnel; that it cannot be stopped is only logged. -/
def stopTunnel (tunnel : TunnelRef) : ServiceProgram Unit := do
  match ← Services.stopTunnel tunnel with
  | .ok () => pure ()
  | .error e => Services.warn "Failed to stop SSH tunnel" (some e.message)

/-- Starts a tunnel and waits until it is ready. -/
def startTunnel (tunnel : TunnelRef) : Action Unit :=
  Action.inContext "Starting SSH tunnel" do
    let started ← ExceptT.lift (Services.startTunnel tunnel)
    started.errors.forM fun e => Action.warn "SSH tunnel error" (some e.message)
    match started.ready with
    | some (.ok ()) => pure ()
    | some (.error e) => throw (.tunnel e)
    | none => throw (.plain "SSH tunnel exited before reporting readiness")

/-- Performs an action while a tunnel is up. -/
def withTunnel (options : TunnelOptions) (action : Action Unit) : Action Unit :=
  ExceptT.mk do
    let tunnel ← Services.openTunnel options
    let result ← (do startTunnel tunnel; action : Action Unit).run
    stopTunnel tunnel
    return result

/-- Waits until the agent answers. -/
def waitUntilReady (server : SettingsServer) (access : TunnelAccess) : InstanceAction Unit := do
  move .awaitingAgent
  let i ← getThe Instance
  let wait := i.vm.waitUntilReady i.settings.agentWaitTimeout i.settings.agentPollDelay
  act (Action.step s!"Waiting for the agent on VM '{i.vm.cid.text}' to be ready"
    (match tunnelOptions? server access with
      | some options => withTunnel options wait
      | none => wait))

/-- Makes the disk of the VM match the manifest. -/
def updateDisks (manifest : Manifest) : InstanceAction (List Disk) := do
  move .convergingDisks
  let i ← getThe Instance
  match manifest.diskPool i.job with
  | .error e => throw (.context "Getting disk pool" (.manifest e))
  | .ok pool => act (Action.inContext "Updating disks" (i.vm.updateDisks pool))

/-- Has the agent run what it is to run. -/
def pushState (i : Instance) (spec : ApplySpec) : Action Unit :=
  Action.step s!"Updating instance '{i.slot}'" do
    Action.inContext "Stopping the agent" i.vm.stop
    Action.inContext "Applying the agent state" (i.vm.apply spec)
    Action.inContext "Starting the agent" i.vm.start

/-- Waits until the jobs run, first for the start of the window. -/
def waitForJobs (i : Instance) (watch : WatchTime) : Action Unit := do
  let name := s!"Waiting for instance '{i.slot}' to be running"
  match watchAttempts watch i.settings.jobsPollInterval with
  | .error f => throw (.context name f)
  | .ok attempts =>
    Action.step name do
      Action.sleep (.ofMillis watch.start.toNat)
      i.vm.waitToBeRunning attempts i.settings.jobsPollInterval

/-- Brings the jobs of the instance to what the manifest says and waits until they run. -/
def updateJobs (manifest : Manifest) (image : StemcellApplySpec) : InstanceAction Unit := do
  move .convergingJobs
  let i ← getThe Instance
  let state ← act (Action.inContext s!"Building state for instance '{i.slot}'"
    (Services.buildState i.job i.index manifest image))
  act (i.pushState state.applySpec)
  act (i.waitForJobs manifest.update.updateWatchTime)
  move .running

/-- Unmounts a disk as a step. -/
def unmountDisk (i : Instance) (disk : Disk) : Action Unit :=
  Action.step s!"Unmounting disk '{disk.cid.text}'"
    (Action.inContext s!"Unmounting disk '{disk.cid.text}' from VM '{i.vm.cid.text}'"
      (i.vm.unmountDisk disk))

/-- Stops the jobs and unmounts the disks, if the agent answers in time. -/
def shutDown (i : Instance) (pingTimeout pingDelay : Duration) : Action Unit := do
  let waited ← ExceptT.lift (Action.step s!"Waiting for the agent on VM '{i.vm.cid.text}'"
    (Action.inContext "Agent unreachable" (i.vm.waitUntilReady pingTimeout pingDelay))).run
  match waited with
  | .error f => Action.warn "Gave up waiting for agent, skipping shutdown" (some f.report)
  | .ok () =>
    Action.step s!"Stopping jobs on instance '{i.slot}'" i.vm.stop
    let disks ← Action.inContext s!"Getting VM '{i.vm.cid.text}' disks" i.vm.disks
    disks.forM i.unmountDisk

/-- Shuts the instance down and deletes its VM. A VM that is missing is deleted too, so
that the cloud can clear away what belongs to it. -/
def delete (pingTimeout pingDelay : Duration) : InstanceAction Unit := do
  move .shuttingDown
  let i ← getThe Instance
  let present ← act (Action.inContext s!"Checking existence of VM for instance '{i.slot}'"
    i.vm.exists?)
  if present then act (i.shutDown pingTimeout pingDelay)
  act (Action.deletionStep s!"Deleting VM '{i.vm.cid.text}'" .vmNotFound i.vm.delete)
  move .deleted

end Instance

end VmDeploy
