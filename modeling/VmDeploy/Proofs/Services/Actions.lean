import VmDeploy.Proofs.Program.Runs
import VmDeploy.Proofs.Result
import VmDeploy.Services

/-!
# Runs of actions

The runs of an action moment by moment, in any environment. `Performs` keeps only the calls of
cloud, agents and registry; here every question counts, also the notes on steps and what a VM is
asked that somebody else drives.

There is one law for each way to build an action. A step stands between the note of its start
and the note of its end (`Noted`), and its end is told in the words of its body.
-/

set_option autoImplicit false

namespace VmDeploy

/-- Whether a question only notes what is going on: the start or the end of a step, or a
warning. -/
def ServiceQuestion.isNote : ServiceQuestion → Bool
  | .startStep _ | .finishStep _ _ _ _ | .warn _ _ => true
  | _ => false

/-- The moments of a step: the note of its start, those of its body, and the note of its end. -/
inductive Noted {σ α : Type} (env : Environment services σ) (name : String) (ended : StepEnd α)
    (s s₁ : σ) (body : List (Moment services σ)) (s₂ s' : σ) :
    List (Moment services σ) → Prop
  | mk {index : Nat} (started : env s (.startStep name) index s₁)
      (finished : env s₂ (.finishStep name index ended.note.1 ended.note.2) () s') :
      Noted env name ended s s₁ body s₂ s'
        (⟨s, .startStep name, index⟩ :: body ++
          [⟨s₂, .finishStep name index ended.note.1 ended.note.2, ()⟩])

/-- What is picked from the moments of a step is picked from those of its body, unless notes are
picked. -/
theorem Noted.filterMap {σ α β : Type} {env : Environment services σ} {name : String}
    {ended : StepEnd α} {s s₁ s₂ s' : σ} {body ms : List (Moment services σ)}
    {pick : Moment services σ → Option β}
    (silent : ∀ m : Moment services σ, m.question.isNote = true → pick m = none)
    (noted : Noted env name ended s s₁ body s₂ s' ms) :
    ms.filterMap pick = body.filterMap pick := by
  obtain ⟨_, _⟩ := noted
  rw [List.filterMap_append, List.filterMap_cons_none (silent _ rfl),
    List.filterMap_cons_none (silent _ rfl), List.filterMap_nil, List.append_nil]

namespace Action

variable {σ α β ε : Type} {env : Environment services σ} {s s' : σ}
  {ms : List (Moment services σ)}

/-- The runs of an action: from a state over moments to a result and a state. -/
abbrev Runs (env : Environment services σ) (x : Action α) (s : σ) (ms : List (Moment services σ))
    (r : Except Failure α) (s' : σ) : Prop :=
  Program.Runs env x.run s ms r s'

theorem runs_pure_iff {a : α} {r : Except Failure α} :
    Runs env (pure a) s ms r s' ↔ ms = [] ∧ r = .ok a ∧ s' = s :=
  Program.runs_run_pure_iff

theorem runs_throw_iff {e : Failure} {r : Except Failure α} :
    Runs env (throw e) s ms r s' ↔ ms = [] ∧ r = .error e ∧ s' = s :=
  Program.runs_run_throw_iff

theorem runs_lift_iff {p : ServiceProgram α} {r : Except Failure α} :
    Runs env (ExceptT.lift p) s ms r s' ↔ ∃ a, r = .ok a ∧ Program.Runs env p s ms a s' :=
  Program.runs_run_lift_iff

/-- A sequence fails with its first part, or its first part succeeds and the second follows. -/
theorem runs_bind_iff {x : Action α} {f : α → Action β} {r : Except Failure β} :
    Runs env (x >>= f) s ms r s' ↔
      (∃ e, r = .error e ∧ Runs env x s ms (.error e) s') ∨
      ∃ a s₁ ms₁ ms₂, ms = ms₁ ++ ms₂ ∧ Runs env x s ms₁ (.ok a) s₁ ∧
        Runs env (f a) s₁ ms₂ r s' :=
  Program.runs_run_bind_iff

/-- A sequence succeeds if both of its parts do. -/
theorem runs_bind_ok_iff {x : Action α} {f : α → Action β} {b : β} :
    Runs env (x >>= f) s ms (.ok b) s' ↔
      ∃ a s₁ ms₁ ms₂, ms = ms₁ ++ ms₂ ∧ Runs env x s ms₁ (.ok a) s₁ ∧
        Runs env (f a) s₁ ms₂ (.ok b) s' := by
  rw [runs_bind_iff]
  constructor
  · rintro (⟨_, failed, _⟩ | both)
    · cases failed
    · exact both
  · exact .inr

theorem runs_ofResult_iff {failure : ε → Failure} {p : ServiceProgram (Except ε α)}
    {r : Except Failure α} :
    Runs env (ofResult failure p) s ms r s' ↔
      ∃ answer, r = answer.mapError failure ∧ Program.Runs env p s ms answer s' :=
  Program.runs_map_iff

/-- A context changes the words of a failure and nothing else. -/
theorem runs_inContext_iff {message : String} {x : Action α} {r : Except Failure α} :
    Runs env (inContext message x) s ms r s' ↔
      ∃ r₀, r = r₀.mapError (.context message) ∧ Runs env x s ms r₀ s' :=
  Program.runs_map_iff

theorem runs_inContext_ok_iff {message : String} {x : Action α} {a : α} :
    Runs env (inContext message x) s ms (.ok a) s' ↔ Runs env x s ms (.ok a) s' := by
  rw [runs_inContext_iff]
  constructor
  · rintro ⟨r₀, heq, run⟩
    rwa [Result.mapError_eq_ok.mp heq.symm] at run
  · intro run
    exact ⟨.ok a, rfl, run⟩

/-- A request to an agent is one moment. -/
theorem runs_agent_iff {a : AgentRef} {request : AgentRequest}
    {r : Except Failure request.Value} :
    Runs env (agent a request) s ms r s' ↔
      ∃ answer, r = answer.mapError .agent ∧ ms = [⟨s, .agent a request, answer⟩] ∧
        env s (.agent a request) answer s' := by
  rw [agent, runs_ofResult_iff]
  exact exists_congr fun _ => and_congr_right fun _ => Program.runs_question_iff

theorem runs_agent_ok_iff {a : AgentRef} {request : AgentRequest} {v : request.Value} :
    Runs env (agent a request) s ms (.ok v) s' ↔
      ms = [⟨s, .agent a request, (.ok v : request.Answer)⟩] ∧
        env s (.agent a request) (.ok v : request.Answer) s' := by
  rw [runs_agent_iff]
  constructor
  · rintro ⟨answer, heq, asked⟩
    rwa [Result.mapError_eq_ok.mp heq.symm] at asked
  · intro asked
    exact ⟨.ok v, rfl, asked⟩

/-- A request to the registry is one moment. -/
theorem runs_registry_iff {request : RegistryRequest} {r : Except Failure request.Value} :
    Runs env (registry request) s ms r s' ↔
      ∃ answer, r = answer.mapError .registry ∧ ms = [⟨s, .registry request, answer⟩] ∧
        env s (.registry request) answer s' := by
  rw [registry, runs_ofResult_iff]
  exact exists_congr fun _ => and_congr_right fun _ => Program.runs_question_iff

/-- A request to a VM that somebody else drives is one moment. -/
theorem runs_vm_iff {vm : VmRef} {request : VmRequest} {r : Except Failure request.Value} :
    Runs env (Services.vm vm request) s ms r s' ↔
      ms = [⟨s, .vm vm request, r⟩] ∧ env s (.vm vm request) r s' :=
  Program.runs_question_iff

/-- A warning is one moment and never fails. -/
theorem runs_warn_iff {message : String} {error : Option String} {r : Except Failure Unit} :
    Runs env (warn message error) s ms r s' ↔
      r = .ok () ∧ ms = [⟨s, .warn message error, ()⟩] ∧ env s (.warn message error) () s' := by
  rw [warn, runs_lift_iff]
  constructor
  · rintro ⟨_, rfl, run⟩
    exact ⟨rfl, Program.runs_question_iff.mp run⟩
  · rintro ⟨rfl, run⟩
    exact ⟨(), rfl, Program.runs_question_iff.mpr run⟩

/-- A step notes its start, does what its body does and notes its end. -/
theorem runs_performStep_iff {name : String} {body : ServiceProgram (StepEnd α)}
    {r : Except Failure (Option α)} :
    Program.Runs env (performStep name body) s ms r s' ↔
      ∃ ended s₁ inner s₂, r = ended.result ∧ Noted env name ended s s₁ inner s₂ s' ms ∧
        Program.Runs env body s₁ inner ended s₂ := by
  have start {index : Nat} {s s' : σ} {ms : List (Moment services σ)} :
      Program.Runs env (MonadStage.start name : ServiceProgram Nat) s ms index s' ↔
        ms = [⟨s, .startStep name, index⟩] ∧ env s (.startStep name) index s' :=
    Program.runs_question_iff
  have finish {index state message} {u : Unit} {s s' : σ} {ms : List (Moment services σ)} :
      Program.Runs env (MonadStage.finish name index state message : ServiceProgram Unit)
          s ms u s' ↔
        ms = [⟨s, .finishStep name index state message, u⟩] ∧
          env s (.finishStep name index state message) u s' :=
    Program.runs_question_iff
  simp only [performStep, Program.runs_bind_iff]
  constructor
  · rintro ⟨index, s₁, _, _, rfl, started, ended, s₂, inner, _, rfl, run, _, _, _, _, rfl, ends,
      last⟩
    obtain ⟨rfl, startNoted⟩ := start.mp started
    obtain ⟨rfl, endNoted⟩ := finish.mp ends
    obtain ⟨rfl, rfl, rfl⟩ := Program.runs_pure_iff.mp last
    exact ⟨ended, s₁, inner, s₂, rfl, .mk startNoted endNoted, run⟩
  · rintro ⟨ended, s₁, inner, s₂, rfl, @⟨index, startNoted, endNoted⟩, run⟩
    exact ⟨index, s₁, [_], _, rfl, start.mpr ⟨rfl, startNoted⟩, ended, s₂, inner, [_], rfl, run,
      (), s', [_], [], rfl, finish.mpr ⟨rfl, endNoted⟩,
      Program.runs_pure_iff.mpr ⟨rfl, rfl, rfl⟩⟩

/-- An action that is performed as a step ends as it would alone. -/
theorem runs_step_iff {name : String} {body : Action α} {r : Except Failure α} :
    Runs env (step name body) s ms r s' ↔
      ∃ s₁ inner s₂, Noted env name (stepEnd r) s s₁ inner s₂ s' ms ∧
        Runs env body s₁ inner r s₂ := by
  simp only [Runs, step, ExceptT.run_mk, Program.runs_bind_iff (p := performStep _ _),
    runs_performStep_iff, Program.runs_map_iff]
  constructor
  · rintro ⟨_, _, _, _, rfl, ⟨_, s₁, inner, s₂, rfl, noted, r₀, rfl, run⟩, last⟩
    cases r₀ with
    | ok a =>
      obtain ⟨rfl, rfl, rfl⟩ := Program.runs_pure_iff.mp last
      exact ⟨s₁, inner, s₂, by rwa [List.append_nil], run⟩
    | error e =>
      obtain ⟨rfl, rfl, rfl⟩ := Program.runs_pure_iff.mp last
      exact ⟨s₁, inner, s₂, by rwa [List.append_nil], run⟩
  · rintro ⟨s₁, inner, s₂, noted, run⟩
    refine ⟨_, s', ms, [], (List.append_nil ms).symm,
      ⟨_, s₁, inner, s₂, rfl, noted, r, rfl, run⟩, ?_⟩
    cases r <;> exact Program.runs_pure_iff.mpr ⟨rfl, rfl, rfl⟩

/-- How a deletion ends: what is already gone counts as deleted. -/
def deletionEnd (type : CloudErrorType) (r : Except Failure Unit) : Except Failure Unit :=
  (skipIfNotFound type r).result.map fun _ => ()

/-- A deletion ends well if nothing is left of what was to be deleted. -/
theorem deletionEnd_eq_ok_iff {type : CloudErrorType} {r : Except Failure Unit} :
    deletionEnd type r = .ok () ↔
      r = .ok () ∨ ∃ f e, r = .error f ∧ f.cloudError? = some e ∧ e.is type = true := by
  cases r with
  | ok _ => exact iff_of_true rfl (.inl rfl)
  | error f =>
    cases told : f.cloudError? with
    | none => simp [deletionEnd, skipIfNotFound, told, StepEnd.result, Except.map]
    | some e =>
      by_cases gone : e.is type = true <;>
        simp [deletionEnd, skipIfNotFound, told, gone, StepEnd.result, Except.map]

/-- A deletion that ends badly ends as its body does. -/
theorem eq_error_of_deletionEnd {type : CloudErrorType} {r : Except Failure Unit} {f : Failure}
    (failed : deletionEnd type r = .error f) : r = .error f := by
  cases r with
  | ok _ => cases failed
  | error g =>
    cases told : g.cloudError? with
    | none => simpa [deletionEnd, skipIfNotFound, told, StepEnd.result, Except.map] using failed
    | some e =>
      by_cases gone : e.is type = true
      · simp [deletionEnd, skipIfNotFound, told, gone, StepEnd.result, Except.map] at failed
      · simpa [deletionEnd, skipIfNotFound, told, gone, StepEnd.result, Except.map] using failed

/-- A deletion step does what its body does. -/
theorem runs_deletionStep_iff {name : String} {type : CloudErrorType} {body : Action Unit}
    {r : Except Failure Unit} :
    Runs env (deletionStep name type body) s ms r s' ↔
      ∃ r₀ s₁ inner s₂, r = deletionEnd type r₀ ∧
        Noted env name (skipIfNotFound type r₀) s s₁ inner s₂ s' ms ∧
        Runs env body s₁ inner r₀ s₂ := by
  simp only [Runs, deletionStep, ExceptT.run_mk, Program.runs_bind_iff (p := performStep _ _),
    runs_performStep_iff, Program.runs_map_iff]
  constructor
  · rintro ⟨_, s₃, _, rest, rfl, ⟨_, s₁, inner, s₂, rfl, noted, r₀, rfl, run⟩, last⟩
    have ended : Program.Runs env (pure (deletionEnd type r₀)) s₃ rest r s' := by
      rw [deletionEnd]
      cases h : skipIfNotFound type r₀ <;> rw [h] at last <;> exact last
    obtain ⟨rfl, rfl, rfl⟩ := Program.runs_pure_iff.mp ended
    exact ⟨r₀, s₁, inner, s₂, rfl, by rwa [List.append_nil], run⟩
  · rintro ⟨r₀, s₁, inner, s₂, rfl, noted, run⟩
    refine ⟨_, s', ms, [], (List.append_nil ms).symm,
      ⟨_, s₁, inner, s₂, rfl, noted, r₀, rfl, run⟩, ?_⟩
    cases h : skipIfNotFound type r₀ <;> rw [deletionEnd, h] <;>
      exact Program.runs_pure_iff.mpr ⟨rfl, rfl, rfl⟩

end Action

end VmDeploy
