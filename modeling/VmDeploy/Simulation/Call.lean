import VmDeploy.Services

/-!
# Calls of services as text

What a deployment asks of its services, one line for each call. Requests to
the registry that only read are not told.
-/

set_option autoImplicit false

namespace VmDeploy.Simulation

/-- A call that is told. -/
inductive Call where
  | cloud (request : CloudRequest)
  | agent (agent : AgentRef) (request : AgentRequest)
  | registry (request : RegistryRequest)
  | buildState (job : String) (index : UInt32) (deployment : String)
  | openTunnel (options : TunnelOptions)
  | startTunnel
  /-- The state is the one before. -/
  | stopTunnel (state : TunnelState)

namespace Call

/-- An argument of the cloud: a text stands for itself. -/
def argumentText : Json → String
  | .string s => s
  | x => x.compact

/-- What a request to an agent says beside its name. -/
def agentArgument : AgentRequest → String
  | .apply spec => spec.configurationHash
  | .mountDisk disk | .unmountDisk disk => disk.text
  | .ping | .stop | .start | .getState | .listDisk | .migrateDisk => ""

/-- A request to the registry as text; nothing for one that only reads. -/
def registryText? : RegistryRequest → Option String
  | .save cid _ _ => some s!"repo:save({cid.text})"
  | .updateCurrent _ => some "repo:update_current"
  | .delete _ => some "repo:delete"
  | .all | .find _ | .findCurrent => none

/-- A call as text. -/
def text? : Call → Option String
  | .cloud request =>
    let arguments := ",".intercalate (request.arguments.map argumentText)
    some s!"cloud:{request.method}({arguments})"
  | .agent ref request =>
    some s!"agent:{ref.name}:{request.method}({agentArgument request})"
  | .registry request => registryText? request
  | .buildState job index deployment =>
    some s!"state_builder:build({job}/{index},{deployment})"
  | .openTunnel o =>
    let fields := [s!"{o.host}:{o.port}", o.user, o.password, o.privateKey,
      s!"{o.remotePort}->{o.localPort}"]
    some (String.append "tunnel:new(" (",".intercalate fields ++ ")"))
  | .startTunnel => some "tunnel:start"
  | .stopTunnel state => some s!"tunnel:stop({state.text})"

end Call

/-- A run of equal lines as one line. -/
def runText (line : String) (count : Nat) : String :=
  if count = 1 then line else s!"{line} x{count}"

/-- Adds a line in front of runs. -/
def addToRuns (line : String) : List (String × Nat) → List (String × Nat)
  | [] => [(line, 1)]
  | (other, n) :: rest =>
    if line = other then (other, n + 1) :: rest else (line, 1) :: (other, n) :: rest

/-- Tells each run of equal lines in one line. -/
def collapse (lines : List String) : List String :=
  (lines.foldr addToRuns []).map fun (line, count) => runText line count

end VmDeploy.Simulation
