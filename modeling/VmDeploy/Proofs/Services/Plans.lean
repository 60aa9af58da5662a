import VmDeploy.Proofs.Services.Calls

/-!
# Plans

Most operations make fixed calls in a fixed order and end with the first that fails. Such
calls follow a plan (`Follows`), and an action adheres to a plan if its calls follow it
whatever the services answer (`Adheres`), with success exactly if no call failed. The laws
put the plan of an action together from those of its parts.
-/

set_option autoImplicit false

namespace VmDeploy

/-- Calls that follow a plan up to the first that fails. The flag says that none failed, so
that the whole plan was carried out. -/
inductive Follows {σ : Type} : List ServiceQuestion → List (Exchange σ) → Bool → Prop
  | finished : Follows [] [] true
  | failed {c : Exchange σ} {plan : List ServiceQuestion} (failed : c.failed = true) :
      Follows (c.question :: plan) [c] false
  | next {c : Exchange σ} {plan : List ServiceQuestion} {calls : List (Exchange σ)} {ok : Bool}
      (answered : c.failed = false) (rest : Follows plan calls ok) :
      Follows (c.question :: plan) (c :: calls) ok

namespace Follows

variable {σ : Type} {plan first second : List ServiceQuestion}
  {calls before after : List (Exchange σ)} {c : Exchange σ} {ok : Bool}

/-- After a plan that was carried out another may be followed. -/
theorem append (done : Follows first before true) (rest : Follows second after ok) :
    Follows (first ++ second) (before ++ after) ok := by
  generalize flag : true = finished at done
  induction done with
  | finished => exact rest
  | failed _ => cases flag
  | next answered _ ih => exact .next answered (ih flag)

/-- A plan that was broken off hides what stands behind it. -/
theorem stop (broken : Follows first calls false) : Follows (first ++ second) calls false := by
  generalize flag : false = finished at broken
  induction broken with
  | finished => cases flag
  | failed failed => exact .failed failed
  | next answered _ ih => exact .next answered (ih flag)

/-- The first question of a plan fails, or it is answered and the others follow. -/
theorem cons_iff {q : ServiceQuestion} :
    Follows (q :: plan) calls ok ↔
      ∃ c rest, calls = c :: rest ∧ c.question = q ∧
        ((c.failed = true ∧ rest = [] ∧ ok = false) ∨
          (c.failed = false ∧ Follows plan rest ok)) := by
  constructor
  · intro follows
    cases follows with
    | failed failed => exact ⟨_, [], rfl, rfl, .inl ⟨failed, rfl, rfl⟩⟩
    | next answered rest => exact ⟨_, _, rfl, rfl, .inr ⟨answered, rest⟩⟩
  · rintro ⟨c, rest, rfl, rfl, ⟨failed, rfl, rfl⟩ | ⟨answered, follows⟩⟩
    · exact .failed failed
    · exact .next answered follows

/-- Calls that follow one plan and then another break off in the first or carry it out. -/
theorem append_iff :
    Follows (first ++ second) calls ok ↔
      (ok = false ∧ Follows first calls false) ∨
        ∃ before after, calls = before ++ after ∧ Follows first before true ∧
          Follows second after ok := by
  constructor
  · intro follows
    induction first generalizing calls with
    | nil => exact .inr ⟨[], calls, rfl, .finished, follows⟩
    | cons q first ih =>
      cases follows with
      | failed failed => exact .inl ⟨rfl, .failed failed⟩
      | next answered rest =>
        rcases ih rest with ⟨rfl, broken⟩ | ⟨before, after, rfl, done, later⟩
        · exact .inl ⟨rfl, .next answered broken⟩
        · exact .inr ⟨_, after, rfl, .next answered done, later⟩
  · rintro (⟨rfl, broken⟩ | ⟨before, after, rfl, done, later⟩)
    · exact broken.stop
    · exact done.append later

/-- If no call failed, the plan was carried out. -/
theorem ok_of_answered (follows : Follows plan calls ok)
    (answered : ∀ c ∈ calls, c.failed = false) : ok = true := by
  induction follows with
  | finished => rfl
  | failed failed => simp [failed] at answered
  | next _ _ ih => exact ih fun c mem => answered c (List.mem_cons_of_mem _ mem)

/-- What was asked stands in the plan. -/
theorem mem_plan (follows : Follows plan calls ok) (mem : c ∈ calls) : c.question ∈ plan := by
  induction follows with
  | finished => cases mem
  | failed _ =>
    rw [List.mem_singleton.mp mem]
    exact List.mem_cons_self
  | next _ _ ih =>
    rcases List.mem_cons.mp mem with rfl | later
    · exact List.mem_cons_self
    · exact List.mem_cons_of_mem _ (ih later)

/-- If the last question of a plan was answered, the plan was carried out. -/
theorem carried_out {q : ServiceQuestion} (follows : Follows (plan ++ [q]) calls ok)
    (absent : q ∉ plan) (mem : c ∈ calls) (asked : c.question = q) (answered : c.failed = false) :
    ok = true := by
  rcases append_iff.mp follows with ⟨_, broken⟩ | ⟨before, after, rfl, done, last⟩
  · exact absurd (asked ▸ broken.mem_plan mem) absent
  · rcases List.mem_append.mp mem with early | late
    · exact absurd (asked ▸ done.mem_plan early) absent
    · cases last with
      | failed failed =>
        rw [List.mem_singleton.mp late, failed] at answered
        cases answered
      | next _ rest =>
        cases rest
        rfl

/-- In front of a call all that the plan has in front of it was asked, and nothing failed. -/
theorem split (follows : Follows plan calls ok) (here : calls = before ++ c :: after) :
    (∃ rest, plan = before.map Exchange.question ++ c.question :: rest) ∧
      ∀ b ∈ before, b.failed = false := by
  induction follows generalizing before with
  | finished => simp at here
  | failed _ =>
    rcases before with _ | ⟨b, before⟩
    · cases here
      exact ⟨⟨_, rfl⟩, by simp⟩
    · simp at here
  | next answered _ ih =>
    rcases before with _ | ⟨b, before⟩
    · cases here
      exact ⟨⟨_, rfl⟩, by simp⟩
    · rw [List.cons_append, List.cons.injEq] at here
      obtain ⟨rfl, here⟩ := here
      obtain ⟨⟨rest, hplan⟩, earlier⟩ := ih here
      refine ⟨⟨rest, by rw [hplan]; rfl⟩, ?_⟩
      intro b mem
      rcases List.mem_cons.mp mem with rfl | later
      · exact answered
      · exact earlier b later

end Follows

/-- The calls of an action follow a plan, and it succeeds if none of them failed. -/
def Adheres {σ α : Type} (env : Environment services σ) (plan : List ServiceQuestion)
    (x : Action α) : Prop :=
  ∀ ⦃s calls r s'⦄, Performs env x.run s calls r s' → Follows plan calls r.isOk

namespace Adheres

variable {σ α β : Type} {env : Environment services σ} {plan first second : List ServiceQuestion}

theorem pure {a : α} : Adheres env [] (Pure.pure a : Action α) := by
  intro s calls r s' run
  obtain ⟨rfl, rfl, rfl⟩ := Performs.run_pure_iff.mp run
  exact .finished

theorem bind {x : Action α} {f : α → Action β} (here : Adheres env first x)
    (later : ∀ a, Adheres env second (f a)) : Adheres env (first ++ second) (x >>= f) := by
  intro s calls r s' run
  rcases Performs.run_bind_iff.mp run with ⟨e, rfl, ran⟩ | ⟨a, s₁, cs₁, cs₂, rfl, run₁, run₂⟩
  · exact (here ran).stop
  · exact (here run₁).append (later a run₂)

theorem cloud {request : CloudRequest} : Adheres env [.cloud request] (Action.cloud request) := by
  intro s calls r s' run
  obtain ⟨answer, rfl, rfl, -⟩ := Performs.run_cloud_iff.mp run
  cases answer with
  | ok a => exact .next (c := .cloud s request (.ok a)) rfl .finished
  | error e => exact .failed (c := .cloud s request (.error e)) rfl

theorem agent {a : AgentRef} {request : AgentRequest} :
    Adheres env [.agent a request] (Action.agent a request) := by
  intro s calls r s' run
  obtain ⟨answer, rfl, rfl, -⟩ := Performs.run_agent_iff.mp run
  cases answer with
  | ok v => exact .next (c := .agent s a request (.ok v)) rfl .finished
  | error e => exact .failed (c := .agent s a request (.error e)) rfl

theorem registry {request : RegistryRequest} :
    Adheres env [.registry request] (Action.registry request) := by
  intro s calls r s' run
  obtain ⟨answer, rfl, rfl, -⟩ := Performs.run_registry_iff.mp run
  cases answer with
  | ok v => exact .next (c := .registry s request (.ok v)) rfl .finished
  | error e => exact .failed (c := .registry s request (.error e)) rfl

theorem inContext {message : String} {x : Action α} (here : Adheres env plan x) :
    Adheres env plan (Action.inContext message x) := by
  intro s calls r s' run
  obtain ⟨r₀, rfl, ran⟩ := Performs.run_inContext_iff.mp run
  rw [Result.isOk_mapError]
  exact here ran

theorem step (quiet : env.Quiet) {name : String} {x : Action α} (here : Adheres env plan x) :
    Adheres env plan (Action.step name x) :=
  fun _ _ _ _ run => here ((Performs.run_step_iff quiet).mp run)

end Adheres

end VmDeploy
