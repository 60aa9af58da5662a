import VmDeploy.Stage

/-!
# Trees of steps

A step may perform other steps before it ends. The first of them that fails
ends it with its failure; otherwise it ends as it is meant to.
-/

set_option autoImplicit false

namespace VmDeploy

/-- A step, the steps inside it, and how it ends if these do not fail. -/
inductive StepTree where
  | step (name : String) (inner : List StepTree) (ending : StepEnd Unit)

namespace StepTree

instance : Inhabited StepTree := ⟨.step "" [] (.finished ())⟩

mutual

/-- Performs a step with the steps inside it. -/
def perform : StepTree → StateM StageLog (Except Failure (Option Unit))
  | .step name inner ending =>
    performStep name do
      match ← performAll inner with
      | .ok () => return ending
      | .error f => return .failed f

/-- Performs steps up to the first that fails. -/
def performAll : List StepTree → StateM StageLog (Except Failure Unit)
  | [] => return .ok ()
  | tree :: rest => do
    match ← perform tree with
    | .ok _ => performAll rest
    | .error f => return .error f

end

end StepTree

end VmDeploy
