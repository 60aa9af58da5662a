import VmDeploy.Agent.Request
import VmDeploy.Cloud.Request
import VmDeploy.Disk.Basic
import VmDeploy.Instance.DesiredState
import VmDeploy.Program
import VmDeploy.Registry.Request
import VmDeploy.Stage
import VmDeploy.Tunnel.Options

/-!
# Services

A deployment works through others: the cloud, the agents inside its VMs, the
registry of disks, tunnels, the builder of desired states, a clock, the stage
that tells what is going on, and the log for warnings. An operation of the
deployment is a program over the questions to all of them.

`Action` adds failure. What a service refuses becomes a failure in the words
of the operation; `inContext` says what was being done.
-/

set_option autoImplicit false

namespace VmDeploy

/-- Tells agents apart, also those of one name. -/
structure AgentRef where
  name : String
  index : Nat
  deriving DecidableEq, Repr, Inhabited

/-- Tells VMs apart that are not driven through cloud and agent. -/
structure VmRef where
  index : Nat
  deriving DecidableEq, Repr, Inhabited

/-- Tells tunnels apart, in the order in which they were made. -/
structure TunnelRef where
  index : Nat
  deriving DecidableEq, Repr, Inhabited

/-- What a VM can be asked to do. -/
inductive VmRequest where
  | exists
  | waitUntilReady (timeout delay : Duration)
  /-- Makes its disk match a pool; the answer is the disks attached afterwards. -/
  | updateDisks (pool : DiskPool)
  | stop
  | apply (spec : ApplySpec)
  | start
  | waitToBeRunning (maxAttempts : UInt32) (delay : Duration)
  | attachDisk (disk : Disk)
  | detachDisk (disk : Disk)
  /-- The disks that are mounted. -/
  | disks
  | unmountDisk (disk : Disk)
  | delete

/-- What a VM answers a request with when nothing fails. -/
def VmRequest.Value : VmRequest → Type
  | .exists => Bool
  | .updateDisks _ | .disks => List Disk
  | .waitUntilReady _ _ | .stop | .apply _ | .start | .waitToBeRunning _ _ | .attachDisk _
  | .detachDisk _ | .unmountDisk _ | .delete => Unit

/-- How the start of a tunnel went: what stood in its ready slot, nothing if the slot was
dropped, and the errors that it reported by the way. -/
structure TunnelStart where
  ready : Option (Except TunnelError Unit)
  errors : List TunnelError

/-- The questions that a deployment asks. -/
inductive ServiceQuestion where
  | cloud (request : CloudRequest)
  | agent (agent : AgentRef) (request : AgentRequest)
  | registry (request : RegistryRequest)
  | vm (vm : VmRef) (request : VmRequest)
  | openTunnel (options : TunnelOptions)
  | startTunnel (tunnel : TunnelRef)
  | stopTunnel (tunnel : TunnelRef)
  | buildState (job : String) (index : UInt32) (manifest : Manifest) (image : StemcellApplySpec)
  /-- An identifier that was never used and the time. -/
  | freshRecord
  | now
  | sleep (span : Duration)
  | startStep (step : String)
  | finishStep (step : String) (index : Nat) (state : StepState) (message : Option String)
  | warn (message : String) (error : Option String)

/-- What answers each question. -/
def ServiceQuestion.Answer : ServiceQuestion → Type
  | .cloud request => request.Answer
  | .agent _ request => request.Answer
  | .registry request => request.Answer
  | .vm _ request => Except Failure request.Value
  | .openTunnel _ => TunnelRef
  | .startTunnel _ => TunnelStart
  | .stopTunnel _ => Except TunnelError Unit
  | .buildState _ _ _ _ => Except Failure DesiredState
  | .freshRecord => RecordId × Timestamp
  | .now => Duration
  | .sleep _ => Unit
  | .startStep _ => Nat
  | .finishStep _ _ _ _ => Unit
  | .warn _ _ => Unit

/-- The services of a deployment. -/
def services : Interface := ⟨ServiceQuestion, ServiceQuestion.Answer⟩

/-- A program over the services. -/
abbrev ServiceProgram := Program services

/-- A program over the services that may fail. -/
abbrev Action := ExceptT Failure ServiceProgram

instance : MonadClock ServiceProgram where
  sleep span := Program.question (I := services) (.sleep span)
  now := Program.question (I := services) .now

instance : MonadStage ServiceProgram where
  start step := Program.question (I := services) (.startStep step)
  finish step index state message :=
    Program.question (I := services) (.finishStep step index state message)

namespace Services

/-- Asks the cloud. -/
def cloud (request : CloudRequest) : ServiceProgram (Except CloudError request.Value) :=
  Program.question (I := services) (.cloud request)

/-- Asks an agent. -/
def agent (a : AgentRef) (request : AgentRequest) :
    ServiceProgram (Except AgentError request.Value) :=
  Program.question (I := services) (.agent a request)

/-- Asks the registry. -/
def registry (request : RegistryRequest) :
    ServiceProgram (Except RegistryError request.Value) :=
  Program.question (I := services) (.registry request)

/-- Asks a VM. -/
def vm (v : VmRef) (request : VmRequest) : Action request.Value :=
  Program.question (I := services) (.vm v request)

/-- Makes a tunnel. -/
def openTunnel (options : TunnelOptions) : ServiceProgram TunnelRef :=
  Program.question (I := services) (.openTunnel options)

/-- Starts a tunnel. -/
def startTunnel (tunnel : TunnelRef) : ServiceProgram TunnelStart :=
  Program.question (I := services) (.startTunnel tunnel)

/-- Stops a tunnel. -/
def stopTunnel (tunnel : TunnelRef) : ServiceProgram (Except TunnelError Unit) :=
  Program.question (I := services) (.stopTunnel tunnel)

/-- Has a desired state built. -/
def buildState (job : String) (index : UInt32) (manifest : Manifest)
    (image : StemcellApplySpec) : Action DesiredState :=
  Program.question (I := services) (.buildState job index manifest image)

/-- Takes an identifier that was never used, and the time. -/
def freshRecord : ServiceProgram (RecordId × Timestamp) :=
  Program.question (I := services) .freshRecord

/-- Logs a warning. -/
def warn (message : String) (error : Option String) : ServiceProgram Unit :=
  Program.question (I := services) (.warn message error)

end Services

namespace Action

variable {α ε : Type}

/-- An action from a program whose errors become failures. -/
def ofResult (failure : ε → Failure) (program : ServiceProgram (Except ε α)) : Action α :=
  ExceptT.mk do return (← program).mapError failure

/-- Asks the cloud. -/
def cloud (request : CloudRequest) : Action request.Value :=
  ofResult .cloud (Services.cloud request)

/-- Asks an agent. -/
def agent (a : AgentRef) (request : AgentRequest) : Action request.Value :=
  ofResult .agent (Services.agent a request)

/-- Asks the registry. -/
def registry (request : RegistryRequest) : Action request.Value :=
  ofResult .registry (Services.registry request)

/-- Says what was being done when an action failed. -/
def inContext (message : String) (action : Action α) : Action α :=
  ExceptT.mk do return (← action.run).mapError (.context message)

/-- Logs a warning. -/
def warn (message : String) (error : Option String) : Action Unit :=
  ExceptT.lift (Services.warn message error)

/-- Lets time pass. -/
def sleep (span : Duration) : Action Unit := ExceptT.lift (MonadSleep.sleep span)

/-- The end of a step whose body finishes or fails. -/
def stepEnd : Except Failure α → StepEnd α
  | .ok a => .finished a
  | .error f => .failed f

/-- Performs an action as a step. -/
def step (name : String) (body : Action α) : Action α :=
  ExceptT.mk do
    match ← performStep name (do return stepEnd (← body.run)) with
    | .ok (some a) => return .ok a
    | .ok none => return .error (.plain s!"{name} produced nothing")
    | .error f => return .error f

/-- Performs a deletion as a step, which is skipped if what it deletes is already gone. -/
def deletionStep (name : String) (notFound : CloudErrorType) (body : Action Unit) :
    Action Unit :=
  ExceptT.mk do
    match ← performStep name (do return skipIfNotFound notFound (← body.run)) with
    | .ok _ => return .ok ()
    | .error f => return .error f

end Action

end VmDeploy
