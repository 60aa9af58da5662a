import VmDeploy.Agent.Endpoint
import VmDeploy.Agent.Reply
import VmDeploy.Agent.Request
import VmDeploy.ApplySpec.Json
import VmDeploy.Disk.Record

/-!
# Agents over HTTP

Each request is a message to the agent. Some requests are answered at once;
the others start a task, and the agent is asked for the task until it no
longer says that the task is running. The task is always asked for by the
identifier of the first reply.

The client is a program over any monad in which messages can be exchanged and
time can be let pass. The number of times that a task is asked for is bounded
by a patience, behind which there is no answer.

It is the deployer's `HttpAgentClient`: `request` sends one message and reads
its reply, and `send_async_task` polls the task with the unlimited strategy.
-/

set_option autoImplicit false

namespace VmDeploy

/-- What a request says beside its name. -/
def AgentRequest.arguments : AgentRequest → List Json
  | .apply spec => [spec.toJson]
  | .mountDisk disk | .unmountDisk disk => [.string disk.text]
  | .ping | .stop | .start | .getState | .listDisk | .migrateDisk => []

/-- A message as it travels. -/
structure AgentMessage where
  url : Url
  httpMethod : String
  authorization : Option String
  contentType : String
  body : Json
  deriving Repr

/-- A monad in which messages to agents can be exchanged. -/
class MonadExchange (m : Type → Type) extends MonadSleep m where
  /-- Sends a message; nothing comes back if the connection is closed. -/
  exchange : AgentMessage → m (Option AgentReply)

/-- A task of an agent. -/
structure TaskHandle where
  id : String
  state : String
  deriving DecidableEq, Repr

/-- Reads a task. -/
def TaskHandle.decoder : Json.Decoder TaskHandle :=
  Json.Decoder.record "TaskHandle" (mk
    <$> Json.Fields.required "agent_task_id" Json.Decoder.string
    <*> Json.Fields.required "state" Json.Decoder.string)

/-- The state of a task that is not done. -/
def TaskHandle.running : String := "running"

/-- Whether a value says that a task is running. -/
def saysRunning : Json → Bool
  | .object fields =>
    match Keyed.find? "state" fields with
    | some (.string state) => state = TaskHandle.running
    | _ => false
  | _ => false

/-- A client of an agent. -/
structure AgentClient where
  endpoint : AgentEndpoint
  replyTo : String
  taskPollDelay : Duration
  deriving Repr

namespace AgentClient

variable {m : Type → Type} [Monad m] [MonadExchange m] (client : AgentClient)

/-- The message of a method and its arguments. -/
def message (method : String) (arguments : List Json) : AgentMessage where
  url := client.endpoint.url
  httpMethod := "POST"
  authorization := client.endpoint.authorization
  contentType := "application/json"
  body := .object [
    ("arguments", .array arguments),
    ("method", .string method),
    ("reply_to", .string client.replyTo)]

/-- Sends a message and reads the value that comes back. -/
def request (method : String) (arguments : List Json) : m (Except AgentError Json) := do
  match ← MonadExchange.exchange (client.message method arguments) with
  | none => return .error .transport
  | some reply => return reply.value

/-- Sends a message and reads the value that comes back as one of a shape. -/
def requestOf {α : Type} (method : String) (decode : Json.Decoder α) :
    m (Except AgentError α) := do
  match ← client.request method [] with
  | .error e => return .error e
  | .ok value => return (decode value).mapError fun e => .unexpectedResponse method e.message

/-- Asks once for a task. -/
def pollTask (task : String) : m (Attempt AgentError) := do
  match ← client.request "get_task" [.string task] with
  | .error e => return .refused e
  | .ok value => return if saysRunning value then .failed (.taskRunning task) else .succeeded

/-- Sends a message that starts a task and waits until the task is done. -/
def performTask (patience : Nat) (method : String) (arguments : List Json) :
    m (Option (Except AgentError Unit)) := do
  match ← client.request method arguments with
  | .error e => return some (.error e)
  | .ok value =>
    match TaskHandle.decoder value with
    | .error e => return some (.error (.unexpectedResponse method e.message))
    | .ok task =>
      if task.state ≠ TaskHandle.running then return some (.ok ())
      else
        let polled ← Retry.unlimited client.taskPollDelay (client.pollTask task.id) patience
        return polled.map fun result =>
          result.mapError fun e => .taskPolling method task.id e.stop e.source

/-- Performs a request. -/
def perform (patience : Nat) (request : AgentRequest) : m (Option request.Answer) :=
  let method := request.method
  let arguments := request.arguments
  match request with
  | .ping => do
    match ← client.request method arguments with
    | .error e => return some (.error e)
    | .ok (.string answer) => return some (.ok answer)
    | .ok _ => return some (.ok "")
  | .start => do return some ((← client.request method arguments).map fun _ => ())
  | .getState => some <$> client.requestOf method AgentState.decoder
  | .listDisk => some <$> client.requestOf method (Json.Decoder.list CloudId.decoder)
  | .stop | .apply _ | .mountDisk _ | .unmountDisk _ | .migrateDisk =>
    client.performTask patience method arguments

end AgentClient

end VmDeploy
