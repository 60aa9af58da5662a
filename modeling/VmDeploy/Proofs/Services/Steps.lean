import VmDeploy.Proofs.Services.Questions
import VmDeploy.Proofs.Stage.Progress

/-!
# Programs that perform steps

A program is stepwise if all that it notes of steps comes from performing them, whatever else it
asks and is answered (`ServiceProgram.Stepwise`). It may perform steps inside steps, go on behind
steps that failed, and perform a step again.

Where a log keeps the notes on steps (`Environment.KeepsStage`), such a program performs steps on
it. When it has run they have taken a course (`ServiceProgram.Stepwise.advances`), and in every
state that it reaches by the way they have come so far (`ServiceProgram.Stepwise.stands`).
-/

set_option autoImplicit false

namespace VmDeploy

/-! ## States on the way -/

namespace Program

variable {I : Interface} {σ α β : Type} {env : Environment I σ} {s s' : σ}

/-- The states that a program may be in when it was started in a state, also if it has not ended
yet or never will. -/
inductive Reaches (env : Environment I σ) : Program I α → σ → σ → Prop
  | here {p : Program I α} {s : σ} : Reaches env p s s
  | ask {q : I.Question} {next : I.Answer q → Program I α} {answer : I.Answer q} {s s₁ s' : σ}
      (answered : env s q answer s₁) (rest : Reaches env (next answer) s₁ s') :
      Reaches env (.ask q next) s s'

/-- The states of a run are reached, that of each of its moments and the last. -/
theorem Runs.reaches {p : Program I α} {ms : List (Moment I σ)} {a : α}
    (run : Runs env p s ms a s') :
    (∀ m ∈ ms, Reaches env p s m.state) ∧ Reaches env p s s' := by
  induction run with
  | done => exact ⟨fun _ mem => (List.not_mem_nil mem).elim, .here⟩
  | ask answered _ ih =>
    obtain ⟨moments, last⟩ := ih
    exact ⟨List.forall_mem_cons.mpr ⟨.here, fun m mem => .ask answered (moments m mem)⟩,
      .ask answered last⟩

/-- In a sequence the second part reaches states when the first has run. -/
theorem Reaches.of_bind {p : Program I α} {f : α → Program I β}
    (reaches : Reaches env (p >>= f) s s') :
    Reaches env p s s' ∨ ∃ a s₁ ms, Runs env p s ms a s₁ ∧ Reaches env (f a) s₁ s' := by
  induction p generalizing s with
  | done a => exact .inr ⟨a, s, [], .done, reaches⟩
  | ask q next ih =>
    cases reaches with
    | here => exact .inl .here
    | ask answered rest =>
      rcases ih _ rest with within | ⟨a, s₁, ms, run, behind⟩
      · exact .inl (.ask answered within)
      · exact .inr ⟨a, s₁, _, .ask answered run, behind⟩

end Program

/-! ## Stepwise programs -/

namespace ServiceQuestion

/-- Whether a question notes the start or the end of a step. -/
def marksStep : ServiceQuestion → Bool
  | .startStep _ | .finishStep _ _ _ _ => true
  | _ => false

end ServiceQuestion

/-- A log keeps the notes on steps, and nothing else changes it. -/
structure Environment.KeepsStage {σ : Type} (env : Environment services σ) (stage : σ → StageLog) :
    Prop where
  started : ∀ {s s' : σ} {name : String} {index : Nat}, env s (.startStep name) index s' →
    index = ((stage s).start name).1 ∧ stage s' = ((stage s).start name).2
  finished : ∀ {s s' : σ} {name : String} {index : Nat} {state : StepState}
    {message : Option String}, env s (.finishStep name index state message) () s' →
      stage s' = (stage s).finish name index state message
  others : ∀ {s s' : σ} {q : services.Question} {answer : services.Answer q},
    q.marksStep = false → env s q answer s' → stage s' = stage s

/-- A program that notes starts and ends of steps only by performing them. -/
inductive ServiceProgram.Stepwise : {α : Type} → ServiceProgram α → Prop
  | done {α : Type} {a : α} : Stepwise (.done a : ServiceProgram α)
  | ask {α : Type} {q : services.Question} {next : services.Answer q → ServiceProgram α}
      (other : q.marksStep = false) (rest : ∀ answer, Stepwise (next answer)) :
      Stepwise (.ask q next : ServiceProgram α)
  | perform {α β : Type} {name : String} {body : ServiceProgram (StepEnd α)}
      {next : Except Failure (Option α) → ServiceProgram β} (inside : Stepwise body)
      (rest : ∀ result, Stepwise (next result)) : Stepwise (performStep name body >>= next)

namespace StepEnd

variable {α : Type}

/-- How a step ended, without its value. -/
def plain : StepEnd α → StepEnd Unit
  | .finished _ => .finished ()
  | .skipped reason => .skipped reason
  | .failed failure => .failed failure

theorem note_plain (ended : StepEnd α) : ended.plain.note = ended.note := by
  cases ended <;> rfl

end StepEnd

namespace ServiceProgram

variable {σ α β : Type} {env : Environment services σ} {stage : σ → StageLog} {s s' : σ}
  {name : String}

/-- A step that is performed reaches the state before it, those of its body, and that behind it. -/
theorem reaches_performStep {body : ServiceProgram (StepEnd α)}
    (reaches : Program.Reaches env (performStep name body) s s') :
    s' = s ∨
      (∃ index s₁, env s (.startStep name) index s₁ ∧ Program.Reaches env body s₁ s') ∨
      ∃ r ms, Program.Runs env (performStep name body) s ms r s' := by
  rw [performStep] at reaches
  rcases reaches.of_bind with start | ⟨index, s₁, _, start, rest⟩
  · cases start with
    | here => exact .inl rfl
    | ask started rest =>
      cases rest
      exact .inr (.inl ⟨_, _, started, .here⟩)
  obtain ⟨-, started⟩ := Program.runs_question_iff.mp start
  refine .inr ?_
  rcases rest.of_bind with within | ⟨ended, s₂, ms, run, rest⟩
  · exact .inl ⟨index, s₁, started, within⟩
  cases rest with
  | here => exact .inl ⟨index, s₁, started, run.reaches.2⟩
  | ask finished rest =>
    cases rest
    exact .inr ⟨_, _, Action.runs_performStep_iff.mpr
      ⟨ended, s₁, ms, s₂, rfl, .mk started finished, run⟩⟩

/-- A step that is performed takes a course, if the steps inside it do. -/
theorem advances_of_performStep (keeps : env.KeepsStage stage) {body : ServiceProgram (StepEnd α)}
    (inside : ∀ {s s' : σ} {ms : List (Moment services σ)} {ended : StepEnd α},
      Program.Runs env body s ms ended s' → ∃ cs, (stage s).Advances cs (stage s'))
    {ms : List (Moment services σ)} {r : Except Failure (Option α)}
    (run : Program.Runs env (performStep name body) s ms r s') :
    ∃ cs, (stage s).Advances cs (stage s') := by
  obtain ⟨ended, s₁, _, s₂, -, @⟨index, started, finished⟩, ran⟩ :=
    Action.runs_performStep_iff.mp run
  obtain ⟨cs, advances⟩ := inside ran
  obtain ⟨number, begun⟩ := keeps.started started
  rw [begun] at advances
  rw [keeps.finished finished, number, ← ended.note_plain]
  exact ⟨_, advances.step⟩

namespace Stepwise

theorem bind {p : ServiceProgram α} {f : α → ServiceProgram β} (first : p.Stepwise)
    (second : ∀ a, Stepwise (f a)) : Stepwise (p >>= f) := by
  induction first with
  | done => exact second _
  | ask other _ ih => exact .ask other fun answer => ih answer second
  | perform inside _ _ ih =>
    rw [bind_assoc]
    exact .perform inside fun result => ih result second

theorem map {p : ServiceProgram α} {f : α → β} (stepwise : p.Stepwise) :
    ServiceProgram.Stepwise (do return f (← p)) :=
  stepwise.bind fun _ => .done

theorem question {q : services.Question} (other : q.marksStep = false) :
    Stepwise (Program.question q) :=
  .ask other fun _ => .done

/-- A program that notes nothing of steps. -/
theorem of_asks {p : ServiceProgram α} (asks : p.Asks (ServiceQuestion.marksStep · = false)) :
    p.Stepwise := by
  induction p with
  | done a => exact .done
  | ask q next ih =>
    obtain ⟨other, later⟩ := asks
    exact .ask other fun answer => ih answer (later answer)

/-- A step is stepwise if its body is. -/
theorem performStep {body : ServiceProgram (StepEnd α)} (inside : body.Stepwise) :
    Stepwise (performStep name body) := by
  rw [← bind_pure (VmDeploy.performStep name body)]
  exact .perform inside fun _ => .done

/-- When a stepwise program has run, the steps that it performed have taken a course. -/
theorem advances (keeps : env.KeepsStage stage) {p : ServiceProgram α} (stepwise : p.Stepwise)
    {ms : List (Moment services σ)} {a : α} (run : Program.Runs env p s ms a s') :
    ∃ cs, (stage s).Advances cs (stage s') := by
  induction stepwise generalizing s s' ms with
  | done =>
    cases run
    exact ⟨[], .refl⟩
  | ask other _ ih =>
    cases run with
    | ask answered rest =>
      rw [← keeps.others other answered]
      exact ih _ rest
  | perform _ _ inside rest =>
    obtain ⟨r, s₁, ms₁, ms₂, -, first, second⟩ := Program.runs_bind_iff.mp run
    obtain ⟨cs, advances⟩ := advances_of_performStep keeps inside first
    obtain ⟨ds, advances'⟩ := rest r second
    exact ⟨cs ++ ds, advances.trans advances'⟩

/-- In every state that a stepwise program reaches, the steps that it performs have come so far. -/
theorem stands (keeps : env.KeepsStage stage) {p : ServiceProgram α} (stepwise : p.Stepwise)
    (reaches : Program.Reaches env p s s') : ∃ progress, (stage s).Stands progress (stage s') := by
  induction stepwise generalizing s s' with
  | done =>
    cases reaches
    exact ⟨_, .of_advances .refl⟩
  | ask other _ ih =>
    cases reaches with
    | here => exact ⟨_, .of_advances .refl⟩
    | ask answered rest =>
      rw [← keeps.others other answered]
      exact ih _ rest
  | perform within _ inside rest =>
    rcases reaches.of_bind with first | ⟨r, s₁, ms, first, second⟩
    · rcases reaches_performStep first with rfl | ⟨index, s₁, started, reaches⟩ | ⟨r, ms, run⟩
      · exact ⟨_, .of_advances .refl⟩
      · obtain ⟨progress, stands⟩ := inside reaches
        rw [(keeps.started started).2] at stands
        exact ⟨_, .inside stands⟩
      · obtain ⟨cs, advances⟩ := advances_of_performStep keeps (within.advances keeps) run
        exact ⟨_, .of_advances advances⟩
    · obtain ⟨cs, advances⟩ := advances_of_performStep keeps (within.advances keeps) first
      obtain ⟨progress, stands⟩ := rest r second
      exact ⟨_, .behind advances stands⟩

end Stepwise

end ServiceProgram

/-! ## Stepwise actions -/

namespace Action

variable {α β ε : Type}

/-- An action that notes starts and ends of steps only by performing them. -/
abbrev Stepwise (x : Action α) : Prop := ServiceProgram.Stepwise x.run

namespace Stepwise

theorem pure {a : α} : Stepwise (Pure.pure a) := .done

theorem throw {f : Failure} : Stepwise (MonadExcept.throw f : Action α) := .done

theorem lift {p : ServiceProgram α} (stepwise : p.Stepwise) : Stepwise (ExceptT.lift p) := by
  rw [Stepwise, ExceptT.run_lift, map_eq_pure_bind]
  exact stepwise.map

theorem ofResult {failure : ε → Failure} {p : ServiceProgram (Except ε α)} (stepwise : p.Stepwise) :
    Stepwise (ofResult failure p) :=
  stepwise.map

theorem cloud {request : CloudRequest} : Stepwise (cloud request) :=
  ofResult (.question rfl)

theorem agent {a : AgentRef} {request : AgentRequest} : Stepwise (agent a request) :=
  ofResult (.question rfl)

theorem registry {request : RegistryRequest} : Stepwise (registry request) :=
  ofResult (.question rfl)

theorem warn {message : String} {error : Option String} : Stepwise (warn message error) :=
  lift (.question rfl)

theorem bind {x : Action α} {f : α → Action β} (first : Stepwise x) (second : ∀ a, Stepwise (f a)) :
    Stepwise (x >>= f) := by
  rw [Stepwise, ExceptT.run_bind]
  refine ServiceProgram.Stepwise.bind first ?_
  rintro (f | a)
  · exact .done
  · exact second a

theorem inContext {message : String} {x : Action α} (stepwise : Stepwise x) :
    Stepwise (inContext message x) :=
  ServiceProgram.Stepwise.map stepwise

theorem step {name : String} {body : Action α} (inside : Stepwise body) :
    Stepwise (step name body) := by
  refine ServiceProgram.Stepwise.perform (ServiceProgram.Stepwise.map inside) ?_
  rintro (f | _ | a) <;> exact .done

theorem deletionStep {name : String} {type : CloudErrorType} {body : Action Unit}
    (inside : Stepwise body) : Stepwise (deletionStep name type body) := by
  refine ServiceProgram.Stepwise.perform (ServiceProgram.Stepwise.map inside) ?_
  rintro (f | _) <;> exact .done

theorem forM {xs : List β} {f : β → Action Unit} (each : ∀ x, Stepwise (f x)) :
    Stepwise (xs.forM f) := by
  induction xs with
  | nil => exact pure
  | cons x xs ih => exact (each x).bind fun _ => ih

theorem mapM {xs : List β} {f : β → Action α} (each : ∀ x, Stepwise (f x)) :
    Stepwise (xs.mapM f) := by
  induction xs with
  | nil => exact pure
  | cons x xs ih =>
    rw [List.mapM_cons]
    exact (each x).bind fun _ => ih.bind fun _ => pure

end Stepwise

end Action

end VmDeploy
