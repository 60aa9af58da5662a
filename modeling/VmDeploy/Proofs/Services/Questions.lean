import VmDeploy.Proofs.Services.Actions

/-!
# What programs ask

A program asks only questions of some kind if it does so whatever it is answered
(`Program.Asks`). That does not depend on who answers, and holds of every moment of every run
(`Program.Asks.of_runs`). There is one law for each way to build an action.

The kind that matters here is what a question has deleted (`ServiceQuestion.deletes?`).
-/

set_option autoImplicit false

namespace VmDeploy

namespace ServiceQuestion

/-- What a question has deleted, if it is a deletion. -/
def deletes? : ServiceQuestion → Option Resource
  | .cloud (.deleteVm _) | .vm _ .delete => some .vm
  | .cloud (.deleteDisk _) => some .disk
  | .cloud (.deleteStemcell _) => some .stemcell
  | _ => none

/-- A question is no deletion of anything else. -/
def DeletesOnly (kind : Resource) (q : ServiceQuestion) : Prop :=
  ∀ other, q.deletes? = some other → other = kind

variable {kind : Resource} {q : ServiceQuestion}

theorem DeletesOnly.of_none (none : q.deletes? = none) : q.DeletesOnly kind := by
  intro other deleted
  rw [none] at deleted
  cases deleted

theorem DeletesOnly.of_some (some : q.deletes? = some kind) : q.DeletesOnly kind := by
  intro other deleted
  rw [some] at deleted
  cases deleted
  rfl

/-- A note deletes nothing. -/
theorem DeletesOnly.of_isNote (isNote : q.isNote = true) : q.DeletesOnly kind := by
  cases q with
  | startStep _ | finishStep _ _ _ _ | warn _ _ => exact .of_none rfl
  | _ => cases isNote

end ServiceQuestion

namespace Program

variable {I : Interface} {σ α β : Type} {P : I.Question → Prop}

/-- All that a program may ask, whatever it is answered, is of a kind. -/
def Asks (P : I.Question → Prop) : Program I α → Prop
  | .done _ => True
  | .ask q next => P q ∧ ∀ answer, (next answer).Asks P

namespace Asks

theorem pure {a : α} : (Pure.pure a : Program I α).Asks P := trivial

theorem question {q : I.Question} (here : P q) : (question q).Asks P :=
  ⟨here, fun _ => trivial⟩

theorem bind {p : Program I α} {f : α → Program I β} (first : p.Asks P)
    (second : ∀ a, (f a).Asks P) : (p >>= f).Asks P := by
  induction p with
  | done a => exact second a
  | ask q next ih =>
    obtain ⟨here, later⟩ := first
    exact ⟨here, fun answer => ih answer (later answer)⟩

theorem map {p : Program I α} {f : α → β} (asks : p.Asks P) :
    Program.Asks P (do return f (← p)) :=
  asks.bind fun _ => pure

/-- What is asked in a run is of the kind. -/
theorem of_runs {env : Environment I σ} {p : Program I α} {a : α} {s s' : σ}
    {ms : List (Moment I σ)} (asks : p.Asks P) (run : Runs env p s ms a s') :
    ∀ m ∈ ms, P m.question := by
  induction run with
  | done => simp
  | ask _ _ ih =>
    obtain ⟨here, later⟩ := asks
    exact List.forall_mem_cons.mpr ⟨here, ih (later _)⟩

end Asks

end Program

namespace Action

variable {α β ε : Type} {P : ServiceQuestion → Prop}

/-- All that an action may ask, whatever it is answered, is of a kind. -/
abbrev Asks (P : ServiceQuestion → Prop) (x : Action α) : Prop :=
  Program.Asks (I := services) P x.run

namespace Asks

theorem pure {a : α} : Asks P (Pure.pure a) := trivial

theorem throw {e : Failure} : Asks P (MonadExcept.throw e : Action α) := trivial

theorem bind {x : Action α} {f : α → Action β} (first : Asks P x) (second : ∀ a, Asks P (f a)) :
    Asks P (x >>= f) := by
  rw [Asks, ExceptT.run_bind]
  refine Program.Asks.bind first ?_
  rintro (e | a)
  · exact Program.Asks.pure
  · exact second a

theorem lift {p : ServiceProgram α} (asks : p.Asks P) : Asks P (ExceptT.lift p) := by
  rw [Asks, ExceptT.run_lift, map_eq_pure_bind]
  exact asks.map

theorem ofResult {failure : ε → Failure} {p : ServiceProgram (Except ε α)} (asks : p.Asks P) :
    Asks P (ofResult failure p) :=
  Program.Asks.map asks

theorem inContext {message : String} {x : Action α} (asks : Asks P x) :
    Asks P (inContext message x) :=
  Program.Asks.map asks

theorem cloud {request : CloudRequest} (here : P (.cloud request)) : Asks P (cloud request) :=
  ofResult (Program.Asks.question (I := services) here)

theorem agent {a : AgentRef} {request : AgentRequest} (here : P (.agent a request)) :
    Asks P (agent a request) :=
  ofResult (Program.Asks.question (I := services) here)

theorem registry {request : RegistryRequest} (here : P (.registry request)) :
    Asks P (registry request) :=
  ofResult (Program.Asks.question (I := services) here)

theorem warn (notes : ∀ q, q.isNote = true → P q) {message : String} {error : Option String} :
    Asks P (warn message error) :=
  lift (Program.Asks.question (I := services) (notes _ rfl))

/-- A step asks what its body asks, and notes its start and its end. -/
theorem performStep (notes : ∀ q, q.isNote = true → P q) {name : String}
    {body : ServiceProgram (StepEnd α)} (asks : body.Asks P) :
    Program.Asks (I := services) P (performStep name body) :=
  Program.Asks.bind (Program.Asks.question (I := services) (notes (.startStep name) rfl)) fun _ =>
    asks.bind fun _ =>
      Program.Asks.bind (Program.Asks.question (I := services) (notes (.finishStep _ _ _ _) rfl))
        fun _ => Program.Asks.pure

theorem step (notes : ∀ q, q.isNote = true → P q) {name : String} {body : Action α}
    (asks : Asks P body) : Asks P (step name body) := by
  refine Program.Asks.bind (performStep notes (Program.Asks.map asks)) ?_
  rintro (e | _ | a) <;> exact Program.Asks.pure

theorem deletionStep (notes : ∀ q, q.isNote = true → P q) {name : String}
    {type : CloudErrorType} {body : Action Unit} (asks : Asks P body) :
    Asks P (deletionStep name type body) := by
  refine Program.Asks.bind (performStep notes (Program.Asks.map asks)) ?_
  rintro (e | _) <;> exact Program.Asks.pure

theorem forM {xs : List β} {f : β → Action Unit} (each : ∀ x, Asks P (f x)) :
    Asks P (xs.forM f) := by
  induction xs with
  | nil => exact pure
  | cons x xs ih => exact (each x).bind fun _ => ih

theorem mapM {xs : List β} {f : β → Action α} (each : ∀ x, Asks P (f x)) :
    Asks P (xs.mapM f) := by
  induction xs with
  | nil => exact pure
  | cons x xs ih =>
    rw [List.mapM_cons]
    exact (each x).bind fun _ => ih.bind fun _ => pure

end Asks

end Action

end VmDeploy
