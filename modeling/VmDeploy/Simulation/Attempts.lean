import VmDeploy.Failure
import VmDeploy.Retry
import VmDeploy.Simulation.Clock

/-!
# Scripted attempts

An operation that is tried fails or succeeds as a script says, and takes as
long as the script says.
-/

set_option autoImplicit false

namespace VmDeploy.Simulation

/-- One attempt: how long it takes and how it ends. -/
structure AttemptScript where
  takes : Duration
  outcome : Attempt Failure

/-- The attempts that are left, the one that follows all of them again and again, and what
was seen so far. -/
structure Attempts where
  script : List AttemptScript
  tail : AttemptScript
  calls : Nat := 0
  clock : Duration := .zero

namespace Attempts

instance : MonadClock (StateM Attempts) where
  sleep span := modify fun a => { a with clock := wakeTime a.clock span }
  now := return (← get).clock

/-- Makes the next attempt. -/
def next : StateM Attempts (Attempt Failure) := do
  let a ← get
  let step := a.script.head?.getD a.tail
  set { a with script := a.script.drop 1, calls := a.calls + 1 }
  MonadSleep.sleep step.takes
  return step.outcome

end Attempts

end VmDeploy.Simulation
