import VmDeploy.Cloud.Request
import VmDeploy.Json.Record

/-!
# The cloud behind a command

A cloud is reached through a command, which is run once for each call. It
reads the call as JSON and writes its response, of which only the text counts:
how the command ended is told when the response cannot be read, and does not
matter otherwise. In a response the error wins over the result.

It is the deployer's `CpiCmdRunner`, whose `call` is behind every method of
`Cloud`.
-/

set_option autoImplicit false

namespace VmDeploy

/-- How a command ended. -/
inductive CommandEnd where
  | exited (code : Nat)
  | killed (signal : Nat)
  deriving DecidableEq, Repr

namespace CommandEnd

/-- The names of the signals, from the first on. -/
def signalNames : List String :=
  ["HUP", "INT", "QUIT", "ILL", "TRAP", "ABRT", "BUS", "FPE", "KILL", "USR1", "SEGV", "USR2",
    "PIPE", "ALRM", "TERM", "STKFLT", "CHLD", "CONT", "STOP", "TSTP", "TTIN", "TTOU", "URG",
    "XCPU", "XFSZ", "VTALRM", "PROF", "WINCH", "IO", "PWR", "SYS"]

/-- The name of a signal. -/
def signalName? : Nat → Option String
  | 0 => none
  | signal + 1 => signalNames[signal]?

/-- The wording of an end. -/
def text : CommandEnd → String
  | .exited code => s!"exit status: {code}"
  | .killed signal =>
    match signalName? signal with
    | some name => s!"signal: {signal} (SIG{name})"
    | none => s!"signal: {signal}"

end CommandEnd

/-- What a command that was run leaves. -/
structure CommandOutput where
  text : List UInt8
  ended : CommandEnd
  deriving DecidableEq, Repr

/-- The error in a response. -/
structure CloudFault where
  type : Option String := none
  message : Option String := none
  okToRetry : Option Bool := none
  deriving DecidableEq, Repr

/-- A response. An outer option tells whether a field was read. -/
structure CloudResponse where
  result : Option Json := none
  error : Option (Option CloudFault) := none
  log : Option String := none

namespace CloudResponse

open Json (Reader)
open Json.Reader (Slot text flag record)

/-- Reads the error in a response. -/
def faultReader (levels : Nat) : Reader CloudFault :=
  record "CpiResponseError"
    [{ name := "type", required := true
       isSet := fun (f : CloudFault) => f.type.isSome
       read := fun _ f => do return { f with type := some (← text) } },
     { name := "message", required := true
       isSet := fun f => f.message.isSome
       read := fun _ f => do return { f with message := some (← text) } },
     { name := "ok_to_retry", required := false
       isSet := fun f => f.okToRetry.isSome
       read := fun _ f => do return { f with okToRetry := some (← flag) } }]
    {} levels

/-- Reads a response. -/
def reader : Reader CloudResponse :=
  record "CpiResponse"
    [{ name := "result", required := false
       isSet := fun (r : CloudResponse) => r.result.isSome
       read := fun levels r => do return { r with result := some (← Json.Reader.value levels) } },
     { name := "error", required := false
       isSet := fun r => r.error.isSome
       read := fun levels r => do
        return { r with error := some (← Json.Reader.orNull (faultReader levels)) } },
     { name := "log", required := false
       isSet := fun r => r.log.isSome
       read := fun _ r => do return { r with log := some (← text) } }]
    {} Json.Reader.maxLevels

/-- Reads the text of a response. -/
def read (text : List UInt8) : Except Json.Fault CloudResponse := reader.run text

/-- The result of a response to a call of a method. -/
def value (r : CloudResponse) (method : String) : Except CloudError Json :=
  match r.error.join with
  | some fault =>
    .error (.rejected method (.parse (fault.type.getD "")) (fault.message.getD "")
      (fault.okToRetry.getD false))
  | none => .ok (r.result.getD .null)

end CloudResponse

namespace CloudCommand

/-- The reason why a command that is missing cannot be run. -/
def notFound : String := "No such file or directory (os error 2)"

/-- A call as the command reads it. -/
def call (director method : String) (arguments : List Json) : Json :=
  Json.received (.object [
    ("arguments", .array arguments),
    ("context", .object [("director_uuid", .string director)]),
    ("method", .string method)])

/-- The value that a call comes back with, from what the command left or the reason why it
could not be run. -/
def value (method : String) : Except String CommandOutput → Except CloudError Json
  | .error reason => .error (.exec method reason)
  | .ok output =>
    match CloudResponse.read output.text with
    | .error fault =>
      .error (.invalidResponse method
        s!"{fault.message} (exit status {output.ended.text})")
    | .ok response => response.value method

/-- The answer to a request, from the value that the call came back with. -/
def answer (request : CloudRequest) (value : Except CloudError Json) : request.Answer :=
  let method := request.method
  match request with
  | .hasVm _ => value >>= fun
    | .bool b => .ok b
    | x => .error (.invalidResponse method s!"expected a boolean, got {x.compact}")
  | .createDisk _ _ _ => value >>= fun
    | .string s => (CloudId.parse s).mapError fun e => .invalidResponse method e.message
    | x => .error (.invalidResponse method s!"expected a disk CID, got {x.compact}")
  | .deleteVm _ | .attachDisk _ _ | .detachDisk _ _ | .deleteDisk _ | .deleteStemcell _ =>
    value.map fun _ => ()

end CloudCommand

end VmDeploy
