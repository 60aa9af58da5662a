import VmDeploy.Agent.Request
import VmDeploy.Simulation.FaultPlan

/-!
# An agent that runs nothing

Its jobs run at once unless it was told what states to report first, and it
refuses the methods that it was told to refuse.
-/

set_option autoImplicit false

namespace VmDeploy.Simulation

/-- A simulated agent. -/
structure Agent where
  /-- What happens to its next calls on their way. -/
  plan : FaultPlan AgentError := []
  /-- How many calls reached it. -/
  calls : Nat := 0
  faults : Keyed String := []
  /-- How many pings are refused. -/
  pingFaults : Nat := 0
  /-- The states of the jobs that are reported before they run. -/
  jobStates : List String := []
  disks : List DiskCid := []
  applied : List ApplySpec := []
  deriving Inhabited

namespace Agent

/-- Tells it to refuse a method. -/
def refuse (method reason : String) (a : Agent) : Agent :=
  { a with faults := Keyed.insert method reason a.faults }

/-- Tells it what states of the jobs to report behind those that it was told already. -/
def reportLater (states : List String) (a : Agent) : Agent :=
  { a with jobStates := a.jobStates ++ states }

/-- The reason with which pings are refused. -/
def pingFault : String := "fake-ping-error"

/-- Answers a ping. -/
def ping (a : Agent) : AgentRequest.ping.Answer × Agent :=
  match a.pingFaults with
  | 0 => (.ok "pong", a)
  | left + 1 => (.error (.exception pingFault), { a with pingFaults := left })

/-- Reports the state of the jobs. -/
def report (a : Agent) : AgentRequest.getState.Answer × Agent :=
  match a.jobStates with
  | [] => (.ok (AgentState.mk "running"), a)
  | state :: rest => (.ok (AgentState.mk state), { a with jobStates := rest })

/-- Answers a request. -/
def answer (request : AgentRequest) (a : Agent) : request.Answer × Agent :=
  let a := { a with calls := a.calls + 1 }
  match Keyed.find? request.method a.faults with
  | some reason => (.error (.exception reason), a)
  | none =>
    match request with
    | .ping => a.ping
    | .getState => a.report
    | .apply spec => (.ok (), { a with applied := a.applied ++ [spec] })
    | .listDisk => (.ok a.disks, a)
    | .stop | .start | .mountDisk _ | .unmountDisk _ | .migrateDisk => (.ok (), a)

end Agent

end VmDeploy.Simulation
