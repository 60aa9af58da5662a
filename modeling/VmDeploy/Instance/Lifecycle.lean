/-!
# Instance lifecycle

An instance is known, gets its agent, its disks and its jobs, runs, and is
shut down and deleted. An operation first moves the instance to the state it
works in; a failed operation leaves it there, so that it may be tried again. A
deleted instance refuses everything.
-/

set_option autoImplicit false

namespace VmDeploy

/-- Where an instance is in its life. -/
inductive Lifecycle where
  | unprovisioned
  | awaitingAgent
  | convergingDisks
  | convergingJobs
  | running
  | shuttingDown
  | deleted
  deriving DecidableEq, Repr, Inhabited

namespace Lifecycle

/-- The name of a state. -/
def text : Lifecycle → String
  | .unprovisioned => "unprovisioned"
  | .awaitingAgent => "awaiting_agent"
  | .convergingDisks => "converging_disks"
  | .convergingJobs => "converging_jobs"
  | .running => "running"
  | .shuttingDown => "shutting_down"
  | .deleted => "deleted"

/-- The name of a state in diagnostic texts. -/
def debugText : Lifecycle → String
  | .unprovisioned => "Unprovisioned"
  | .awaitingAgent => "AwaitingAgent"
  | .convergingDisks => "ConvergingDisks"
  | .convergingJobs => "ConvergingJobs"
  | .running => "Running"
  | .shuttingDown => "ShuttingDown"
  | .deleted => "Deleted"

/-- All states. -/
def all : List Lifecycle :=
  [.unprovisioned, .awaitingAgent, .convergingDisks, .convergingJobs, .running, .shuttingDown,
    .deleted]

/-- The state of a name. -/
def parse? (s : String) : Option Lifecycle := all.find? (·.text = s)

/-- The states to which an instance may move. -/
def successors : Lifecycle → List Lifecycle
  | .unprovisioned => [.awaitingAgent, .shuttingDown]
  | .awaitingAgent => [.awaitingAgent, .convergingDisks, .convergingJobs, .shuttingDown]
  | .convergingDisks => [.convergingDisks, .convergingJobs, .shuttingDown]
  | .convergingJobs => [.convergingJobs, .running, .shuttingDown]
  | .running => [.awaitingAgent, .convergingDisks, .convergingJobs, .shuttingDown]
  | .shuttingDown => [.shuttingDown, .deleted]
  | .deleted => []

/-- Whether an instance may move from one state to another. -/
def canMoveTo (current next : Lifecycle) : Bool := current.successors.contains next

/-- Whether nothing comes behind a state. -/
def isTerminal (s : Lifecycle) : Bool := s = .deleted

/-- Nothing comes behind exactly the terminal states. -/
theorem successors_eq_nil_iff (s : Lifecycle) : s.successors = [] ↔ s.isTerminal = true := by
  cases s <;> decide

end Lifecycle

/-- A move that is not allowed. -/
structure LifecycleError where
  slot : String
  current : Lifecycle
  next : Lifecycle
  deriving DecidableEq, Repr

/-- The wording of a move that is not allowed. -/
def LifecycleError.message (e : LifecycleError) : String :=
  s!"instance '{e.slot}' cannot go from {e.current.text} to {e.next.text}"

end VmDeploy
