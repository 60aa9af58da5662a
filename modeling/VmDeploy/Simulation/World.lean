import VmDeploy.Registry.Basic
import VmDeploy.Simulation.Agent
import VmDeploy.Simulation.Call
import VmDeploy.Simulation.Clock
import VmDeploy.Simulation.FaultPlan
import VmDeploy.Simulation.Roster
import VmDeploy.Simulation.Tunnel
import VmDeploy.Simulation.Vm

/-!
# Simulated services

All services of a deployment as one state. Time stands still but for sleeps.
A call of the cloud, of an agent or of the registry is noted, then meets a
planned failure if there is one, and only then reaches the service.
-/

set_option autoImplicit false

namespace VmDeploy.Simulation

/-- The services of a deployment. -/
structure World where
  clock : Duration := .zero
  /-- How many identifiers were given out. -/
  identifiers : Nat := 0
  cloud : Cloud := {}
  cloudPlan : FaultPlan CloudError := []
  agents : Roster Agent := {}
  vms : Roster Vm := {}
  registry : Registry := {}
  registryPlan : FaultPlan RegistryError := []
  tunnels : List Tunnel := []
  tunnelMode : TunnelMode := {}
  /-- Why tunnels that are made from now on do not come up. -/
  tunnelFault : Option String := none
  builderFault : Option String := none
  builds : List (String × UInt32) := []
  stage : StageLog := { name := "" }
  /-- What was called, the latest call first. -/
  trace : List Call := []
  warnings : List String := []

namespace World

/-- The time at which identifiers and records are made. -/
def epoch : Timestamp := ⟨1735689600, 0⟩

/-- Notes a call. -/
def note (call : Call) (w : World) : World := { w with trace := call :: w.trace }

/-- Sleeps. -/
def sleep (span : Duration) (w : World) : World := { w with clock := wakeTime w.clock span }

/-- The identifier that is given out after a number of others. -/
def identifier (n : Nat) : RecordId := RecordId.mint epoch.toMillis.toNat n

/-- Gives out an identifier. -/
def freshId (w : World) : RecordId × World :=
  (identifier w.identifiers, { w with identifiers := w.identifiers + 1 })

/-- Makes an agent. -/
def addAgent (name : String) (w : World) : AgentRef × World :=
  (⟨name, w.agents.next⟩, { w with agents := w.agents.add name {} })

/-- Makes a VM. -/
def addVm (name : String) (w : World) : VmRef × World :=
  (⟨w.vms.next⟩, { w with vms := w.vms.add name {} })

/-- Asks the cloud. -/
def askCloud (request : CloudRequest) (w : World) : request.Answer × World :=
  let w := w.note (.cloud request)
  let (fault, plan) := w.cloudPlan.next request.method
  let w := { w with cloudPlan := plan }
  match fault with
  | some e => (.error e, w)
  | none =>
    let (answer, cloud) := w.cloud.answer request
    (answer, { w with cloud })

/-- Asks an agent. -/
def askAgent (ref : AgentRef) (request : AgentRequest) (w : World) : request.Answer × World :=
  let w := w.note (.agent ref request)
  let agent := (w.agents.get? ref.index).getD {}
  let (fault, plan) := agent.plan.next request.method
  let agent := { agent with plan }
  let (answer, agent) :=
    match fault with
    | some e => (.error e, agent)
    | none => agent.answer request
  (answer, { w with agents := w.agents.modify ref.index fun _ => agent })

/-- Asks the registry. -/
def askRegistry (request : RegistryRequest) (w : World) : request.Answer × World :=
  let w := w.note (.registry request)
  let (fault, plan) := w.registryPlan.next request.method
  let w := { w with registryPlan := plan }
  match fault with
  | some e => (.error e, w)
  | none =>
    let (id, w) := w.freshId
    let (answer, registry) := w.registry.answer id epoch request
    (answer, { w with registry })

/-- Asks a VM. -/
def askVm (ref : VmRef) (request : VmRequest) (w : World) :
    Except Failure request.Value × World :=
  let (answer, vm) := ((w.vms.get? ref.index).getD {}).answer request
  (answer, { w with vms := w.vms.modify ref.index fun _ => vm })

/-- Makes a tunnel. -/
def openTunnel (options : TunnelOptions) (w : World) : TunnelRef × World :=
  let w := w.note (.openTunnel options)
  let tunnel : Tunnel := ⟨options, w.tunnelMode, w.tunnelFault, 0, 0⟩
  (⟨w.tunnels.length⟩, { w with tunnels := w.tunnels ++ [tunnel] })

/-- Starts a tunnel. -/
def startTunnel (ref : TunnelRef) (w : World) : TunnelStart × World :=
  let w := w.note .startTunnel
  match w.tunnels[ref.index]? with
  | none => (⟨none, []⟩, w)
  | some tunnel =>
    let (started, tunnel) := tunnel.start
    (started, { w with tunnels := w.tunnels.set ref.index tunnel })

/-- Stops a tunnel. -/
def stopTunnel (ref : TunnelRef) (w : World) : Except TunnelError Unit × World :=
  match w.tunnels[ref.index]? with
  | none => (.ok (), w)
  | some tunnel =>
    let w := w.note (.stopTunnel tunnel.state)
    let (stopped, tunnel) := tunnel.stop
    (stopped, { w with tunnels := w.tunnels.set ref.index tunnel })

/-- The state that is built for a slot of a job: one network and one rendered job. -/
def builtState (job : String) (index : UInt32) (manifest : Manifest) : DesiredState where
  deployment := manifest.name
  job := job
  index := index
  networks := [⟨"default", .object [("ip", .string "10.0.0.6")]⟩]
  renderedJobs := [⟨job, "fake-job-version"⟩]
  compiledPackages := []
  archive := ⟨"fake-rendered-blob", "fake-rendered-sha1"⟩

/-- Builds a desired state. -/
def buildState (job : String) (index : UInt32) (manifest : Manifest) (w : World) :
    Except Failure DesiredState × World :=
  let w := w.note (.buildState job index manifest.name)
  let w := { w with builds := w.builds ++ [(job, index)] }
  match w.builderFault with
  | some message => (.error (.plain message), w)
  | none => (.ok (builtState job index manifest), w)

/-- Notes a warning. -/
def warn (message : String) (error : Option String) (w : World) : World :=
  let line := match error with
    | some error => s!"{message}: {error}"
    | none => message
  { w with warnings := w.warnings ++ [line] }

/-- Answers every question of a deployment. -/
def handler : Program.Handler services World
  | .cloud request, w => w.askCloud request
  | .agent ref request, w => w.askAgent ref request
  | .registry request, w => w.askRegistry request
  | .vm ref request, w => w.askVm ref request
  | .openTunnel options, w => w.openTunnel options
  | .startTunnel ref, w => w.startTunnel ref
  | .stopTunnel ref, w => w.stopTunnel ref
  | .buildState job index manifest _, w => w.buildState job index manifest
  | .freshRecord, w =>
    let (id, w) := w.freshId
    ((id, epoch), w)
  | .now, w => (w.clock, w)
  | .sleep span, w => ((), w.sleep span)
  | .startStep step, w =>
    let (index, stage) := w.stage.start step
    (index, { w with stage })
  | .finishStep step index state message, w =>
    ((), { w with stage := w.stage.finish step index state message })
  | .warn message error, w => ((), w.warn message error)

/-- Performs an action. -/
def perform {α : Type} (action : Action α) (w : World) : Except Failure α × World :=
  action.run.run handler w

end World

/-- A recorded disk as it is shown. -/
structure ShownRecord where
  cid : String
  size : UInt64
  current : Bool
  deriving DecidableEq

/-- The disks of a registry that can be read, the oldest first. -/
def shownRecords (r : Registry) : List ShownRecord :=
  let current := (r.findCurrent.toOption.join).map (·.id)
  (r.all.toOption.getD []).map fun record =>
    ⟨record.cid.text, record.size, current = some record.id⟩

/-- What can be seen of a change. -/
structure Observation where
  trace : List String
  events : List StepEvent
  warnings : List String
  /-- Where the registry changed. -/
  registry : Option (List ShownRecord)
  elapsed : Duration

namespace World

/-- The calls that were noted, those of VMs last and by the names of the VMs. -/
def traceLines (w : World) : List String :=
  w.trace.reverse.filterMap Call.text?
    ++ w.vms.current.flatMap fun (name, vm) => vm.calls.map fun call => s!"vm:{name}:{call}"

/-- Forgets what was noted of calls and warnings. -/
def clearNotes (w : World) : World :=
  { w with
    trace := []
    warnings := []
    vms := w.vms.map fun vm => { vm with calls := [] } }

/-- What can be seen behind a change of a world whose notes were cleared. -/
def observe (before after : World) : Observation where
  trace := collapse after.traceLines
  events := after.stage.events.drop before.stage.events.length
  warnings := after.warnings.mergeSort fun a b => !(b < a)
  registry :=
    if shownRecords before.registry = shownRecords after.registry then none
    else some (shownRecords after.registry)
  elapsed := after.clock - before.clock

end World

end VmDeploy.Simulation
