import VmDeploy.Simulation.World

/-!
# What simulated services are told

Between the operations of a deployment its services can be told how to behave
from then on: what to refuse, whom to miss, what to report.
-/

set_option autoImplicit false

namespace VmDeploy.Simulation.World

/-- Tells the cloud something. -/
def tellCloud (change : Cloud → Cloud) (w : World) : World := { w with cloud := change w.cloud }

/-- Tells the agent of a name something. -/
def tellAgent (name : String) (change : Agent → Agent) (w : World) : World :=
  { w with agents := w.agents.tell name change }

/-- Tells the VM of a name something. -/
def tellVm (name : String) (change : Vm → Vm) (w : World) : World :=
  { w with vms := w.vms.tell name change }

/-- Plans what happens to calls of the cloud. -/
def planCloud (method : String) (faults : List (Option CloudError)) (w : World) : World :=
  { w with cloudPlan := w.cloudPlan.plan method faults }

/-- Plans what happens to calls of the registry. -/
def planRegistry (method : String) (faults : List (Option RegistryError)) (w : World) : World :=
  { w with registryPlan := w.registryPlan.plan method faults }

/-- Plans what happens to calls of the agent of a name. -/
def planAgent (name method : String) (faults : List (Option AgentError)) (w : World) : World :=
  w.tellAgent name fun a => { a with plan := a.plan.plan method faults }

/-- Sets how tunnels behave that are made from now on. A reason for not coming up stays until
there is another. -/
def setTunnels (mode : TunnelMode) (fault : Option String) (w : World) : World :=
  { w with tunnelMode := mode, tunnelFault := fault.or w.tunnelFault }

/-- Tells the builder of desired states to refuse. -/
def refuseBuilds (message : String) (w : World) : World := { w with builderFault := some message }

/-- Goes on with an empty stage of the same name. -/
def clearStage (w : World) : World := { w with stage := { name := w.stage.name } }

/-- Opens the registry again. -/
def reopenRegistry (w : World) : World := { w with registry := w.registry.reopen }

end VmDeploy.Simulation.World
