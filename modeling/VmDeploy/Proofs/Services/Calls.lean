import VmDeploy.Proofs.Program.Runs
import VmDeploy.Proofs.Result
import VmDeploy.Services

/-!
# Calls of a run

What matters of a run over the services are its calls: what it asked of the cloud, of
agents and of the registry, what they answered, and in which state. Steps, warnings and
the clock are left out; `Environment.Quiet` says that they change nothing.

`Performs env p s calls a s'` says that the program `p` can run from `s` to `s'` with
these calls and the value `a`. There is one law for each way to build an action, so that
the runs of an operation are found by taking the operation apart.
-/

set_option autoImplicit false

namespace VmDeploy

/-- A call in a run: the state in which it was made, what was asked and what was answered. -/
inductive Exchange (σ : Type) where
  | cloud (state : σ) (request : CloudRequest) (answer : request.Answer)
  | agent (state : σ) (agent : AgentRef) (request : AgentRequest) (answer : request.Answer)
  | registry (state : σ) (request : RegistryRequest) (answer : request.Answer)

namespace Exchange

variable {σ : Type}

/-- What was asked. -/
def question : Exchange σ → ServiceQuestion
  | .cloud _ request _ => .cloud request
  | .agent _ a request _ => .agent a request
  | .registry _ request _ => .registry request

/-- Whether the call failed. -/
def failed : Exchange σ → Bool
  | .cloud _ _ answer => !answer.isOk
  | .agent _ _ _ answer => !answer.isOk
  | .registry _ _ answer => !answer.isOk

/-- The state before the call. -/
def before : Exchange σ → σ
  | .cloud s _ _ | .agent s _ _ _ | .registry s _ _ => s

/-- The states that the call may lead to. -/
def Leads (env : Environment services σ) : Exchange σ → σ → Prop
  | .cloud s request answer, s' => env s (.cloud request) answer s'
  | .agent s a request answer, s' => env s (.agent a request) answer s'
  | .registry s request answer, s' => env s (.registry request) answer s'

end Exchange

/-- Whether a question is a call of the cloud, of an agent or of the registry. -/
def ServiceQuestion.isCall : ServiceQuestion → Bool
  | .cloud _ | .agent _ _ | .registry _ => true
  | _ => false

/-- What a service answers that has nothing to say: requests that only have to be done are done,
those that ask for something fail. -/
def ServiceQuestion.plainAnswer : (q : ServiceQuestion) → q.Answer
  | .cloud (.hasVm _) => Except.ok (ε := CloudError) false
  | .cloud (.createDisk _ _ _) => Except.error (.exec "create_disk" "")
  | .cloud (.deleteVm _) | .cloud (.attachDisk _ _) | .cloud (.detachDisk _ _)
  | .cloud (.deleteDisk _) | .cloud (.deleteStemcell _) => Except.ok (ε := CloudError) ()
  | .agent _ .ping => Except.ok (ε := AgentError) ""
  | .agent _ .getState => Except.error AgentError.transport
  | .agent _ .listDisk => Except.ok (ε := AgentError) []
  | .agent _ .stop | .agent _ (.apply _) | .agent _ .start | .agent _ (.mountDisk _)
  | .agent _ (.unmountDisk _) | .agent _ .migrateDisk => Except.ok (ε := AgentError) ()
  | .registry _ => Except.error (.invalid "")
  | .vm _ _ => Except.error (.plain "")
  | .openTunnel _ => TunnelRef.mk 0
  | .startTunnel _ => TunnelStart.mk none []
  | .stopTunnel _ => Except.ok (ε := TunnelError) ()
  | .buildState _ _ _ _ => Except.error (.plain "")
  | .freshRecord => (default, ⟨0, 0⟩)
  | .now => Duration.mk 0
  | .sleep _ => ()
  | .startStep _ => (0 : Nat)
  | .finishStep _ _ _ _ => ()
  | .warn _ _ => ()

/-- The call of a moment, if it is one. -/
def Moment.exchange? {σ : Type} : Moment services σ → Option (Exchange σ)
  | ⟨s, .cloud request, answer⟩ => some (.cloud s request answer)
  | ⟨s, .agent a request, answer⟩ => some (.agent s a request answer)
  | ⟨s, .registry request, answer⟩ => some (.registry s request answer)
  | _ => none

/-- Questions that are no calls may get any answer and change nothing. -/
def Environment.Quiet {σ : Type} (env : Environment services σ) : Prop :=
  ∀ s q answer s', ServiceQuestion.isCall q = false → (env s q answer s' ↔ s' = s)

/-- A program can run from a state to another with the given calls and value. -/
def Performs {σ α : Type} (env : Environment services σ) (p : ServiceProgram α) (s : σ)
    (calls : List (Exchange σ)) (a : α) (s' : σ) : Prop :=
  ∃ ms, p.Runs env s ms a s' ∧ calls = ms.filterMap Moment.exchange?

/-- The calls of a program that is run against a handler. -/
def ServiceProgram.calls {σ α : Type} (handler : Program.Handler services σ) (p : ServiceProgram α)
    (s : σ) : List (Exchange σ) :=
  (p.trace handler s).filterMap Moment.exchange?

namespace Performs

variable {σ α β ε : Type} {env : Environment services σ} {s s' : σ}
  {calls : List (Exchange σ)}

/-- What a handler does is performed, if the environment allows all its answers. -/
theorem of_run (handler : Program.Handler services σ)
    (allowed : ∀ s q, env s q (handler q s).1 (handler q s).2) (p : ServiceProgram α) (s : σ) :
    Performs env p s (ServiceProgram.calls handler p s) (p.run handler s).1
      (p.run handler s).2 :=
  ⟨_, .of_run handler allowed p s, rfl⟩

/-- A relation that every call respects holds between the ends. -/
theorem related (quiet : env.Quiet) {R : σ → σ → Prop} (refl : ∀ s, R s s)
    (trans : ∀ {s₁ s₂ s₃}, R s₁ s₂ → R s₂ s₃ → R s₁ s₃) {p : ServiceProgram α} {a : α}
    (run : Performs env p s calls a s')
    (step : ∀ c ∈ calls, ∀ s₁, c.Leads env s₁ → R c.before s₁) : R s s' := by
  obtain ⟨ms, ran, rfl⟩ := run
  refine ran.related refl trans ?_
  rintro ⟨s₀, q, answer⟩ mem s₁ answered
  have call {c : Exchange σ} (same : Moment.exchange? ⟨s₀, q, answer⟩ = some c) :=
    step c (List.mem_filterMap.mpr ⟨_, mem, same⟩) s₁
  cases q with
  | cloud _ | agent _ _ | registry _ => exact call rfl answered
  | _ =>
    rw [(quiet _ _ _ _ rfl).mp answered]
    exact refl _

theorem pure_iff {a b : α} :
    Performs env (pure a) s calls b s' ↔ calls = [] ∧ b = a ∧ s' = s := by
  simp only [Performs, Program.runs_pure_iff]
  constructor
  · rintro ⟨ms, ⟨rfl, rfl, rfl⟩, rfl⟩
    exact ⟨rfl, rfl, rfl⟩
  · rintro ⟨rfl, rfl, rfl⟩
    exact ⟨[], ⟨rfl, rfl, rfl⟩, rfl⟩

theorem bind_iff {p : ServiceProgram α} {f : α → ServiceProgram β} {b : β} :
    Performs env (p >>= f) s calls b s' ↔
      ∃ a s₁ first second, calls = first ++ second ∧ Performs env p s first a s₁ ∧
        Performs env (f a) s₁ second b s' := by
  simp only [Performs, Program.runs_bind_iff]
  constructor
  · rintro ⟨ms, ⟨a, s₁, ms₁, ms₂, rfl, run₁, run₂⟩, rfl⟩
    exact ⟨a, s₁, _, _, List.filterMap_append, ⟨ms₁, run₁, rfl⟩, ⟨ms₂, run₂, rfl⟩⟩
  · rintro ⟨a, s₁, _, _, rfl, ⟨ms₁, run₁, rfl⟩, ⟨ms₂, run₂, rfl⟩⟩
    exact ⟨ms₁ ++ ms₂, ⟨a, s₁, ms₁, ms₂, rfl, run₁, run₂⟩, List.filterMap_append.symm⟩

/-- A question is one call, or none if it is no call. -/
theorem question_iff {q : ServiceQuestion} {answer : services.Answer q} :
    Performs env (Program.question (I := services) q) s calls answer s' ↔
      calls = (Moment.exchange? ⟨s, q, answer⟩).toList ∧ env s q answer s' := by
  have single : List.filterMap Moment.exchange? [(⟨s, q, answer⟩ : Moment services σ)]
      = (Moment.exchange? ⟨s, q, answer⟩).toList := by
    cases h : Moment.exchange? (⟨s, q, answer⟩ : Moment services σ) <;> simp [h]
  constructor
  · rintro ⟨ms, run, rfl⟩
    obtain ⟨rfl, answered⟩ := Program.runs_question_iff.mp run
    exact ⟨single, answered⟩
  · rintro ⟨rfl, answered⟩
    exact ⟨_, Program.runs_question_iff.mpr ⟨rfl, answered⟩, single.symm⟩

theorem cloud_iff {request : CloudRequest} {answer : request.Answer} :
    Performs env (Services.cloud request) s calls answer s' ↔
      calls = [.cloud s request answer] ∧ env s (.cloud request) answer s' :=
  question_iff

theorem agent_iff {a : AgentRef} {request : AgentRequest} {answer : request.Answer} :
    Performs env (Services.agent a request) s calls answer s' ↔
      calls = [.agent s a request answer] ∧ env s (.agent a request) answer s' :=
  question_iff

theorem registry_iff {request : RegistryRequest} {answer : request.Answer} :
    Performs env (Services.registry request) s calls answer s' ↔
      calls = [.registry s request answer] ∧ env s (.registry request) answer s' :=
  question_iff

/-- What is no call leaves no trace. -/
theorem quiet_iff (quiet : env.Quiet) {q : ServiceQuestion} (silent : q.isCall = false)
    {answer : services.Answer q} :
    Performs env (Program.question (I := services) q) s calls answer s' ↔
      calls = [] ∧ s' = s := by
  have none : Moment.exchange? (⟨s, q, answer⟩ : Moment services σ) = none := by
    cases q with
    | cloud _ | agent _ _ | registry _ => cases silent
    | _ => rfl
  rw [question_iff, none, quiet s q answer s' silent]
  rfl

/-! ## Actions -/

theorem run_pure_iff {a : α} {r : Except Failure α} :
    Performs env (pure a : Action α).run s calls r s' ↔ calls = [] ∧ r = .ok a ∧ s' = s := by
  rw [ExceptT.run_pure, pure_iff]

theorem run_throw_iff {e : Failure} {r : Except Failure α} :
    Performs env (throw e : Action α).run s calls r s' ↔
      calls = [] ∧ r = .error e ∧ s' = s := by
  rw [ExceptT.run_throw, pure_iff]

theorem run_lift_iff {p : ServiceProgram α} {r : Except Failure α} :
    Performs env (ExceptT.lift p : Action α).run s calls r s' ↔
      ∃ a, r = .ok a ∧ Performs env p s calls a s' := by
  rw [ExceptT.run_lift, map_eq_pure_bind, bind_iff]
  constructor
  · rintro ⟨a, s₁, first, second, rfl, run, last⟩
    obtain ⟨rfl, rfl, rfl⟩ := pure_iff.mp last
    exact ⟨a, rfl, by simpa using run⟩
  · rintro ⟨a, rfl, run⟩
    exact ⟨a, s', calls, [], by simp, run, pure_iff.mpr ⟨rfl, rfl, rfl⟩⟩

/-- A sequence fails with its first part, or its first part succeeds and the second follows. -/
theorem run_bind_iff {x : Action α} {f : α → Action β} {r : Except Failure β} :
    Performs env (x >>= f).run s calls r s' ↔
      (∃ e, r = .error e ∧ Performs env x.run s calls (.error e) s') ∨
      ∃ a s₁ first second, calls = first ++ second ∧ Performs env x.run s first (.ok a) s₁ ∧
        Performs env (f a).run s₁ second r s' := by
  rw [ExceptT.run_bind, bind_iff]
  constructor
  · rintro ⟨a | e, s₁, first, second, rfl, run, last⟩
    · obtain ⟨rfl, rfl, rfl⟩ := pure_iff.mp last
      exact .inl ⟨_, rfl, by simpa using run⟩
    · exact .inr ⟨_, s₁, first, second, rfl, run, last⟩
  · rintro (⟨e, rfl, run⟩ | ⟨a, s₁, first, second, rfl, run, last⟩)
    · exact ⟨.error e, s', calls, [], by simp, run, pure_iff.mpr ⟨rfl, rfl, rfl⟩⟩
    · exact ⟨.ok a, s₁, first, second, rfl, run, last⟩

/-- A sequence succeeds if both of its parts do. -/
theorem run_bind_ok_iff {x : Action α} {f : α → Action β} {b : β} :
    Performs env (x >>= f).run s calls (.ok b) s' ↔
      ∃ a s₁ first second, calls = first ++ second ∧ Performs env x.run s first (.ok a) s₁ ∧
        Performs env (f a).run s₁ second (.ok b) s' := by
  rw [run_bind_iff]
  constructor
  · rintro (⟨_, failed, _⟩ | both)
    · cases failed
    · exact both
  · exact .inr

/-- A program that cannot fail comes before what follows it. -/
theorem run_lift_bind_iff {p : ServiceProgram α} {f : α → Action β} {r : Except Failure β} :
    Performs env (ExceptT.lift p >>= f : Action β).run s calls r s' ↔
      ∃ a s₁ first second, calls = first ++ second ∧ Performs env p s first a s₁ ∧
        Performs env (f a).run s₁ second r s' := by
  rw [run_bind_iff]
  constructor
  · rintro (⟨e, _, failed⟩ | ⟨a, s₁, first, second, rfl, lifted, last⟩)
    · obtain ⟨_, nothing, _⟩ := run_lift_iff.mp failed
      cases nothing
    · obtain ⟨_, heq, ran⟩ := run_lift_iff.mp lifted
      cases heq
      exact ⟨a, s₁, first, second, rfl, ran, last⟩
  · rintro ⟨a, s₁, first, second, rfl, ran, last⟩
    exact .inr ⟨a, s₁, first, second, rfl, run_lift_iff.mpr ⟨a, rfl, ran⟩, last⟩

theorem run_ofResult_iff {failure : ε → Failure} {p : ServiceProgram (Except ε α)}
    {r : Except Failure α} :
    Performs env (Action.ofResult failure p).run s calls r s' ↔
      ∃ answer, r = answer.mapError failure ∧ Performs env p s calls answer s' := by
  rw [Action.ofResult, ExceptT.run_mk, bind_iff]
  constructor
  · rintro ⟨answer, s₁, first, second, rfl, run, last⟩
    obtain ⟨rfl, rfl, rfl⟩ := pure_iff.mp last
    exact ⟨answer, rfl, by simpa using run⟩
  · rintro ⟨answer, rfl, run⟩
    exact ⟨answer, s', calls, [], by simp, run, pure_iff.mpr ⟨rfl, rfl, rfl⟩⟩

/-- A context changes the words of a failure and nothing else. -/
theorem run_inContext_iff {message : String} {x : Action α} {r : Except Failure α} :
    Performs env (Action.inContext message x).run s calls r s' ↔
      ∃ r₀, r = r₀.mapError (.context message) ∧ Performs env x.run s calls r₀ s' :=
  run_ofResult_iff

theorem run_cloud_iff {request : CloudRequest} {r : Except Failure request.Value} :
    Performs env (Action.cloud request).run s calls r s' ↔
      ∃ answer, r = answer.mapError .cloud ∧ calls = [.cloud s request answer] ∧
        env s (.cloud request) answer s' := by
  simp only [Action.cloud, run_ofResult_iff, cloud_iff]

theorem run_agent_iff {a : AgentRef} {request : AgentRequest}
    {r : Except Failure request.Value} :
    Performs env (Action.agent a request).run s calls r s' ↔
      ∃ answer, r = answer.mapError .agent ∧ calls = [.agent s a request answer] ∧
        env s (.agent a request) answer s' := by
  simp only [Action.agent, run_ofResult_iff, agent_iff]

theorem run_registry_iff {request : RegistryRequest} {r : Except Failure request.Value} :
    Performs env (Action.registry request).run s calls r s' ↔
      ∃ answer, r = answer.mapError .registry ∧ calls = [.registry s request answer] ∧
        env s (.registry request) answer s' := by
  simp only [Action.registry, run_ofResult_iff, registry_iff]

theorem run_inContext_ok_iff {message : String} {x : Action α} {a : α} :
    Performs env (Action.inContext message x).run s calls (.ok a) s' ↔
      Performs env x.run s calls (.ok a) s' := by
  rw [run_inContext_iff]
  constructor
  · rintro ⟨r₀, heq, ran⟩
    rwa [Result.mapError_eq_ok.mp heq.symm] at ran
  · intro ran
    exact ⟨.ok a, rfl, ran⟩

theorem run_cloud_ok_iff {request : CloudRequest} {a : request.Value} :
    Performs env (Action.cloud request).run s calls (.ok a) s' ↔
      calls = [.cloud s request (.ok a)] ∧ env s (.cloud request) (.ok a) s' := by
  rw [run_cloud_iff]
  constructor
  · rintro ⟨answer, heq, asked⟩
    rwa [Result.mapError_eq_ok.mp heq.symm] at asked
  · intro asked
    exact ⟨.ok a, rfl, asked⟩

theorem run_agent_ok_iff {a : AgentRef} {request : AgentRequest} {v : request.Value} :
    Performs env (Action.agent a request).run s calls (.ok v) s' ↔
      calls = [.agent s a request (.ok v)] ∧ env s (.agent a request) (.ok v) s' := by
  rw [run_agent_iff]
  constructor
  · rintro ⟨answer, heq, asked⟩
    rwa [Result.mapError_eq_ok.mp heq.symm] at asked
  · intro asked
    exact ⟨.ok v, rfl, asked⟩

theorem run_registry_ok_iff {request : RegistryRequest} {a : request.Value} :
    Performs env (Action.registry request).run s calls (.ok a) s' ↔
      calls = [.registry s request (.ok a)] ∧ env s (.registry request) (.ok a) s' := by
  rw [run_registry_iff]
  constructor
  · rintro ⟨answer, heq, asked⟩
    rwa [Result.mapError_eq_ok.mp heq.symm] at asked
  · intro asked
    exact ⟨.ok a, rfl, asked⟩

theorem warn_iff (quiet : env.Quiet) {message : String} {error : Option String} {u : Unit} :
    Performs env (Services.warn message error) s calls u s' ↔ calls = [] ∧ s' = s :=
  quiet_iff quiet rfl

/-- A step makes the calls of its body. -/
theorem performStep_iff (quiet : env.Quiet) {name : String} {body : ServiceProgram (StepEnd α)}
    {r : Except Failure (Option α)} :
    Performs env (performStep name body) s calls r s' ↔
      ∃ ended, r = ended.result ∧ Performs env body s calls ended s' := by
  have start {index : Nat} {s s' : σ} {calls : List (Exchange σ)} :
      Performs env (MonadStage.start name : ServiceProgram Nat) s calls index s' ↔
        calls = [] ∧ s' = s :=
    quiet_iff quiet rfl
  have finish {index state message} {u : Unit} {s s' : σ} {calls : List (Exchange σ)} :
      Performs env (MonadStage.finish name index state message : ServiceProgram Unit)
        s calls u s' ↔ calls = [] ∧ s' = s :=
    quiet_iff quiet rfl
  simp only [performStep, bind_iff]
  constructor
  · rintro ⟨index, _, _, _, rfl, started, ended, s₁, _, _, rfl, run, _, _, _, _, rfl, ends, last⟩
    obtain ⟨rfl, rfl⟩ := start.mp started
    obtain ⟨rfl, rfl⟩ := finish.mp ends
    obtain ⟨rfl, rfl, rfl⟩ := pure_iff.mp last
    exact ⟨ended, rfl, by simpa using run⟩
  · rintro ⟨ended, rfl, run⟩
    exact ⟨0, s, [], calls, rfl, start.mpr ⟨rfl, rfl⟩, ended, s', calls, [], by simp, run, (),
      s', [], [], rfl, finish.mpr ⟨rfl, rfl⟩, pure_iff.mpr ⟨rfl, rfl, rfl⟩⟩

/-- An action that is performed as a step has the same calls and the same result. -/
theorem run_step_iff (quiet : env.Quiet) {name : String} {body : Action α}
    {r : Except Failure α} :
    Performs env (Action.step name body).run s calls r s' ↔
      Performs env body.run s calls r s' := by
  simp only [Action.step, ExceptT.run_mk, bind_iff, performStep_iff quiet, pure_iff]
  constructor
  · rintro ⟨_, _, _, _, rfl, ⟨_, rfl, r₀, _, _, _, rfl, run, rfl, rfl, rfl⟩, last⟩
    cases r₀ with
    | ok a =>
      obtain ⟨rfl, rfl, rfl⟩ := pure_iff.mp last
      simpa using run
    | error e =>
      obtain ⟨rfl, rfl, rfl⟩ := pure_iff.mp last
      simpa using run
  · intro run
    refine ⟨_, s', calls, [], by simp, ⟨_, rfl, r, s', calls, [], by simp, run, rfl, rfl, rfl⟩, ?_⟩
    cases r with
    | ok a => exact pure_iff.mpr ⟨rfl, rfl, rfl⟩
    | error e => exact pure_iff.mpr ⟨rfl, rfl, rfl⟩

/-- A deletion step has the calls of its body; what is already gone counts as deleted. -/
theorem run_deletionStep_iff (quiet : env.Quiet) {name : String} {type : CloudErrorType}
    {body : Action Unit} {r : Except Failure Unit} :
    Performs env (Action.deletionStep name type body).run s calls r s' ↔
      ∃ r₀, r = (skipIfNotFound type r₀).result.map (fun _ => ()) ∧
        Performs env body.run s calls r₀ s' := by
  simp only [Action.deletionStep, ExceptT.run_mk, bind_iff, performStep_iff quiet, pure_iff]
  constructor
  · rintro ⟨_, _, _, _, rfl, ⟨_, rfl, r₀, _, _, _, rfl, run, rfl, rfl, rfl⟩, last⟩
    refine ⟨r₀, ?_, ?_⟩
    · split at last <;> simp_all [pure_iff, Except.map]
    · split at last <;> obtain ⟨rfl, -, rfl⟩ := pure_iff.mp last <;> simpa using run
  · rintro ⟨r₀, rfl, run⟩
    refine ⟨_, s', calls, [], by simp, ⟨_, rfl, r₀, s', calls, [], by simp, run, rfl, rfl, rfl⟩, ?_⟩
    split <;> simp_all [pure_iff, Except.map]

end Performs

end VmDeploy
