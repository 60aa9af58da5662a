import VmDeploy.Retry

/-!
# Agent errors

A request to an agent fails because the endpoint cannot be used, because no
reply comes back, because the reply carries a bad status or an exception, or
because the reply cannot be understood. A task that the agent works on fails
with the error of the request that asked for it last.
-/

set_option autoImplicit false

namespace VmDeploy

/-- Why a request to an agent failed. -/
inductive AgentError where
  | invalidEndpoint (endpoint reason : String)
  | transport
  | status (code : Nat) (body : String)
  | exception (reason : String)
  | unexpectedResponse (method reason : String)
  /-- A task is not done; waiting goes on. -/
  | taskRunning (task : String)
  | taskPolling (method task : String) (stop : RetryStop) (source : AgentError)
  deriving DecidableEq, Repr

namespace AgentError

/-- The wording of an error. -/
def message : AgentError → String
  | .invalidEndpoint endpoint reason => s!"Invalid agent endpoint '{endpoint}': {reason}"
  | .transport => "Performing request to agent"
  | .status code body => s!"Agent responded with status {code}: {body}"
  | .exception reason => s!"Agent responded with error: {reason}"
  | .unexpectedResponse method reason => s!"Unexpected agent response to '{method}': {reason}"
  | .taskRunning task => s!"Task '{task}' is still running"
  | .taskPolling method task _ _ => s!"Waiting for agent task '{task}' of '{method}'"

/-- The wordings of what caused an error, the nearest cause first. -/
def causes : AgentError → List String
  | .taskPolling _ _ stop source => stop.message :: source.message :: source.causes
  | _ => []

end AgentError

end VmDeploy
