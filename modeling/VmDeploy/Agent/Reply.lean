import VmDeploy.Agent.Error
import VmDeploy.Json.Record
import VmDeploy.Text.Utf8

/-!
# Replies of agents

The body of a good reply holds a value or an exception; an exception wins. A
reply that is not good is told with its body as text. What stands behind a
reply that has no body by its status does not count, and an interim reply
counts as none.
-/

set_option autoImplicit false

namespace VmDeploy

/-- What comes back for a message. -/
structure AgentReply where
  status : Nat
  body : List UInt8
  deriving DecidableEq, Repr

/-- The body of a good reply. -/
structure AgentResponse where
  value : Option Json := none
  /-- The message of the exception, if there is one; the outer option tells whether the
  field was read. -/
  exception : Option (Option String) := none

namespace AgentResponse

open Json (Reader)
open Json.Reader (Slot text record)

/-- Reads an exception. -/
def exceptionReader (levels : Nat) : Reader (Option String) :=
  record "AgentException"
    [{ name := "message", required := true
       isSet := fun (read : Option String) => read.isSome
       read := fun _ _ => do return some (← text) }]
    none levels

/-- Reads a body. -/
def reader : Reader AgentResponse :=
  record "AgentResponse"
    [{ name := "value", required := false
       isSet := fun (r : AgentResponse) => r.value.isSome
       read := fun levels r => do return { r with value := some (← Json.Reader.value levels) } },
     { name := "exception", required := false
       isSet := fun r => r.exception.isSome
       read := fun levels r => do
        let exception ← Json.Reader.orNull (exceptionReader levels)
        return { r with exception := some exception.join } }]
    {} Json.Reader.maxLevels

end AgentResponse

namespace AgentReply

/-- Whether a reply is the answer to a message: its status has three digits and is not that of
an interim reply. -/
def isFinal (r : AgentReply) : Bool :=
  r.status = 101 || (200 ≤ r.status && r.status < 1000)

/-- The statuses of replies that have no body. -/
def bareStatuses : List Nat := [101, 204, 304]

/-- The body of a reply. -/
def content (r : AgentReply) : List UInt8 :=
  if bareStatuses.contains r.status then [] else r.body

/-- Whether a status means success. -/
def isGood (r : AgentReply) : Bool := 200 ≤ r.status && r.status < 300

/-- The value of a reply. A good reply that cannot be read counts as none. -/
def value (r : AgentReply) : Except AgentError Json :=
  if ¬ r.isFinal then .error .transport
  else if ¬ r.isGood then
    .error (.status r.status (String.ofList (Text.Utf8.decodeLossy r.content)))
  else
    match AgentResponse.reader.run r.content with
    | .error _ => .error .transport
    | .ok response =>
      match response.exception.join with
      | some reason => .error (.exception reason)
      | none => .ok (response.value.getD .null)

end AgentReply

end VmDeploy
