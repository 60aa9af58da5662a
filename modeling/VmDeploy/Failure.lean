import VmDeploy.Agent.Error
import VmDeploy.Cloud.Error
import VmDeploy.Instance.Lifecycle
import VmDeploy.Manifest.Basic
import VmDeploy.Registry.Error
import VmDeploy.Tunnel.Error

/-!
# Failures

An operation fails with an error of one of its collaborators, wrapped in the
contexts in which it was called and in the words of a retry that gave up. A
failure is told as its message and the messages of its causes, the outermost
first. What the storage of the registry adds in its own words stands behind
all of these, and only in reports.

`skipIfNotFound` looks for an error of the cloud through any number of
contexts, but not through a retry.
-/

set_option autoImplicit false

namespace VmDeploy

/-- Why an operation failed. -/
inductive Failure where
  | plain (message : String)
  | cloud (error : CloudError)
  | agent (error : AgentError)
  | registry (error : RegistryError)
  | tunnel (error : TunnelError)
  | lifecycle (error : LifecycleError)
  | manifest (error : ManifestError)
  /-- A strategy gave up on an operation. -/
  | retry (stop : RetryStop) (source : Failure)
  /-- What was being done. -/
  | context (message : String) (source : Failure)
  deriving DecidableEq, Repr

namespace Failure

/-- The outermost message. -/
def message : Failure → String
  | .plain message => message
  | .cloud e => e.message
  | .agent e => e.message
  | .registry e => e.message
  | .tunnel e => e.message
  | .lifecycle e => e.message
  | .manifest e => e.message
  | .retry stop _ => stop.message
  | .context message _ => message

/-- The messages below the outermost. -/
def causes : Failure → List String
  | .plain _ | .registry _ | .lifecycle _ | .manifest _ => []
  | .cloud e => e.causes
  | .agent e => e.causes
  | .tunnel e => e.causes
  | .retry _ source => source.message :: source.causes
  | .context _ source => source.message :: source.causes

/-- What the storage of the registry adds. -/
def details : Failure → List String
  | .registry e => e.details
  | .retry _ source => source.details
  | .context _ source => source.details
  | _ => []

/-- All messages in one line. -/
def report (f : Failure) : String := ": ".intercalate (f.message :: f.causes ++ f.details)

/-- The error of the cloud inside the contexts. -/
def cloudError? : Failure → Option CloudError
  | .cloud e => some e
  | .context _ source => source.cloudError?
  | _ => none

/-- A failure of a strategy. -/
def ofRetry (e : RetryError Failure) : Failure := .retry e.stop e.source

/-- Wraps a failure in contexts, the last of which is the outermost. -/
def wrap (f : Failure) (contexts : List String) : Failure :=
  contexts.foldl (fun f message => .context message f) f

/-- The error of the cloud is found inside any contexts. -/
@[simp] theorem cloudError?_wrap (f : Failure) (contexts : List String) :
    (f.wrap contexts).cloudError? = f.cloudError? := by
  induction contexts generalizing f with
  | nil => rfl
  | cons message rest ih => exact ih (.context message f)

end Failure

/-- How the body of a step ended. -/
inductive StepEnd (α : Type) where
  | finished (value : α)
  /-- There was nothing to do. -/
  | skipped (reason : String)
  | failed (failure : Failure)

/-- The end of a deletion: what is already gone is skipped, with the words of the cloud. -/
def skipIfNotFound (type : CloudErrorType) : Except Failure Unit → StepEnd Unit
  | .ok () => .finished ()
  | .error f =>
    match f.cloudError? with
    | some e => if e.is type then .skipped e.message else .failed f
    | none => .failed f

end VmDeploy
