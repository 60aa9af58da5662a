import VmDeploy.Failure

/-!
# Stages

A stage tells what is going on in named steps. A step is numbered and noted
when it starts, and noted again when it has finished, was skipped or failed.
Steps may be performed inside steps. A skipped step counts as success; the
failure of a step is that of its body, unchanged.

`StageLog` keeps the notes, as the deployer's `EventLoggerStage` does. Its final
note on a name, the `outcome`, is the last one that is not of a start.
-/

set_option autoImplicit false

namespace VmDeploy

/-- What is noted of a step. -/
inductive StepState where
  | started
  | finished
  | skipped
  | failed
  deriving DecidableEq, Repr

/-- The name of a state. -/
def StepState.text : StepState → String
  | .started => "started"
  | .finished => "finished"
  | .skipped => "skipped"
  | .failed => "failed"

/-- A note on a step. -/
structure StepEvent where
  step : String
  index : Nat
  state : StepState
  message : Option String
  deriving DecidableEq, Repr

/-- The notes on a stage, the oldest first, and how many steps were started. -/
structure StageLog where
  name : String
  events : List StepEvent := []
  steps : Nat := 0
  deriving DecidableEq, Repr, Inhabited

namespace StageLog

/-- Notes the start of a step; the result is its number. -/
def start (log : StageLog) (step : String) : Nat × StageLog :=
  let index := log.steps + 1
  (index, { log with
    steps := index
    events := log.events ++ [⟨step, index, .started, none⟩] })

/-- Notes the end of a step. -/
def finish (log : StageLog) (step : String) (index : Nat) (state : StepState)
    (message : Option String) : StageLog :=
  { log with events := log.events ++ [⟨step, index, state, message⟩] }

/-- The names of the steps in the order in which they started. -/
def stepNames (log : StageLog) : List String :=
  (log.events.filter (·.state = .started)).map (·.step)

/-- How the step of a name ended that ended last. -/
def outcome? (log : StageLog) (step : String) : Option StepState :=
  (log.events.reverse.find? fun e => e.step = step ∧ e.state ≠ .started).map (·.state)

end StageLog

/-- A monad in which steps are noted. -/
class MonadStage (m : Type → Type) where
  start : (step : String) → m Nat
  finish : (step : String) → (index : Nat) → StepState → (message : Option String) → m Unit

/-- What is noted at the end of a step. -/
def StepEnd.note {α : Type} : StepEnd α → StepState × Option String
  | .finished _ => (.finished, none)
  | .skipped reason => (.skipped, some reason)
  | .failed failure => (.failed, some failure.report)

/-- What a step returns: a value if it finished, none if it was skipped. -/
def StepEnd.result {α : Type} : StepEnd α → Except Failure (Option α)
  | .finished value => .ok (some value)
  | .skipped _ => .ok none
  | .failed failure => .error failure

variable {m : Type → Type} {α : Type} [Monad m] [MonadStage m]

/-- Performs a step. -/
def performStep (step : String) (body : m (StepEnd α)) : m (Except Failure (Option α)) := do
  let index ← MonadStage.start step
  let ended ← body
  let (state, message) := ended.note
  MonadStage.finish step index state message
  return ended.result

instance {m : Type → Type} [Monad m] [MonadStateOf StageLog m] : MonadStage m where
  start step := do
    let (index, log) := (← getThe StageLog).start step
    set log
    return index
  finish step index state message :=
    modifyThe StageLog fun log => log.finish step index state message

end VmDeploy
