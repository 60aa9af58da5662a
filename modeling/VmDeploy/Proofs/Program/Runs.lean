import VmDeploy.Program

/-!
# Runs of programs

A handler answers every question in one way. To speak of all the ways in which a question
may be answered, failures among them, an environment is a relation: it says which answers
a question may get in a state, and which states that may lead to.

A run of a program in an environment keeps, for each question that was asked, the answer
and the state in which it was asked. `runs_bind_iff` takes the run of a sequence apart, and
`runs_run_bind_iff` that of a sequence whose parts may fail. `Runs.related` carries a relation
from single questions to whole runs, and `Runs.of_run` says that what a handler does is a run,
if the environment allows its answers.
-/

set_option autoImplicit false

namespace VmDeploy

/-- Which answers a question may get in a state, and which states that may lead to. -/
abbrev Environment (I : Interface) (σ : Type) := σ → (q : I.Question) → I.Answer q → σ → Prop

/-- A question that was asked in a state, and its answer. -/
structure Moment (I : Interface) (σ : Type) where
  state : σ
  question : I.Question
  answer : I.Answer question

namespace Program

variable {I : Interface} {σ α β : Type} {env : Environment I σ}

/-- The runs of a program: from a state over moments to a value and a state. -/
inductive Runs (env : Environment I σ) : Program I α → σ → List (Moment I σ) → α → σ → Prop
  | done {a : α} {s : σ} : Runs env (.done a) s [] a s
  | ask {q : I.Question} {next : I.Answer q → Program I α} {answer : I.Answer q}
      {s s₁ s' : σ} {ms : List (Moment I σ)} {a : α} (answered : env s q answer s₁)
      (rest : Runs env (next answer) s₁ ms a s') :
      Runs env (.ask q next) s (⟨s, q, answer⟩ :: ms) a s'

theorem runs_pure_iff {a b : α} {s s' : σ} {ms : List (Moment I σ)} :
    Runs env (pure a : Program I α) s ms b s' ↔ ms = [] ∧ b = a ∧ s' = s := by
  constructor
  · intro run
    cases run
    exact ⟨rfl, rfl, rfl⟩
  · rintro ⟨rfl, rfl, rfl⟩
    exact .done

theorem runs_question_iff {q : I.Question} {answer : I.Answer q} {s s' : σ}
    {ms : List (Moment I σ)} :
    Runs env (question q) s ms answer s' ↔ ms = [⟨s, q, answer⟩] ∧ env s q answer s' := by
  constructor
  · intro run
    cases run with
    | ask answered rest =>
      cases rest
      exact ⟨rfl, answered⟩
  · rintro ⟨rfl, answered⟩
    exact .ask answered .done

/-- Runs are put one behind the other. -/
theorem Runs.bind {p : Program I α} {f : α → Program I β} {a : α} {b : β} {s s₁ s' : σ}
    {ms₁ ms₂ : List (Moment I σ)} (first : Runs env p s ms₁ a s₁)
    (second : Runs env (f a) s₁ ms₂ b s') : Runs env (p >>= f) s (ms₁ ++ ms₂) b s' := by
  induction first with
  | done => exact second
  | ask answered _ ih => exact .ask answered (ih second)

/-- A run of a sequence is a run of its first part and then one of its second. -/
theorem runs_bind_iff {p : Program I α} {f : α → Program I β} {b : β} {s s' : σ}
    {ms : List (Moment I σ)} :
    Runs env (p >>= f) s ms b s' ↔
      ∃ a s₁ ms₁ ms₂, ms = ms₁ ++ ms₂ ∧ Runs env p s ms₁ a s₁ ∧ Runs env (f a) s₁ ms₂ b s' := by
  constructor
  · intro run
    induction p generalizing s ms with
    | done a => exact ⟨a, s, [], ms, rfl, .done, run⟩
    | ask q next ih =>
      cases run with
      | ask answered rest =>
        obtain ⟨a, s₁, ms₁, ms₂, rfl, first, second⟩ := ih _ rest
        exact ⟨a, s₁, _, ms₂, rfl, .ask answered first, second⟩
  · rintro ⟨a, s₁, ms₁, ms₂, rfl, first, second⟩
    exact first.bind second

/-- A question comes first in a sequence that begins with it. -/
theorem runs_question_bind_iff {q : I.Question} {f : I.Answer q → Program I β} {b : β} {s s' : σ}
    {ms : List (Moment I σ)} :
    Runs env (question q >>= f) s ms b s' ↔
      ∃ answer s₁ rest, ms = ⟨s, q, answer⟩ :: rest ∧ env s q answer s₁ ∧
        Runs env (f answer) s₁ rest b s' := by
  constructor
  · intro run
    cases run with
    | ask answered rest => exact ⟨_, _, _, rfl, answered, rest⟩
  · rintro ⟨answer, s₁, rest, rfl, answered, run⟩
    exact .ask answered run

/-- What is made of the value of a program leaves its run as it is. -/
theorem runs_map_iff {p : Program I α} {f : α → β} {b : β} {s s' : σ} {ms : List (Moment I σ)} :
    Runs env (do return f (← p)) s ms b s' ↔ ∃ a, b = f a ∧ Runs env p s ms a s' := by
  rw [runs_bind_iff]
  constructor
  · rintro ⟨a, s₁, ms₁, ms₂, rfl, run, last⟩
    obtain ⟨rfl, rfl, rfl⟩ := runs_pure_iff.mp last
    exact ⟨a, rfl, by rwa [List.append_nil]⟩
  · rintro ⟨a, rfl, run⟩
    exact ⟨a, s', ms, [], (List.append_nil ms).symm, run, runs_pure_iff.mpr ⟨rfl, rfl, rfl⟩⟩

/-- A relation that every answer of a run respects holds between its ends. -/
theorem Runs.related {R : σ → σ → Prop} (refl : ∀ s, R s s)
    (trans : ∀ {s₁ s₂ s₃}, R s₁ s₂ → R s₂ s₃ → R s₁ s₃) {p : Program I α} {a : α} {s s' : σ}
    {ms : List (Moment I σ)} (run : Runs env p s ms a s')
    (step : ∀ m ∈ ms, ∀ s₁, env m.state m.question m.answer s₁ → R m.state s₁) : R s s' := by
  induction run with
  | done => exact refl _
  | ask answered _ ih =>
    have here := step _ List.mem_cons_self _ answered
    exact trans here (ih fun m mem => step m (List.mem_cons_of_mem _ mem))

/-- The moments of a program that is run against a handler. -/
def trace (handler : Handler I σ) : Program I α → σ → List (Moment I σ)
  | .done _, _ => []
  | .ask q next, s =>
    match handler q s with
    | (answer, s') => ⟨s, q, answer⟩ :: (next answer).trace handler s'

/-- What a handler does is a run, if the environment allows all its answers. -/
theorem Runs.of_run (handler : Handler I σ)
    (allowed : ∀ s q, env s q (handler q s).1 (handler q s).2) (p : Program I α) (s : σ) :
    Runs env p s (p.trace handler s) (p.run handler s).1 (p.run handler s).2 := by
  induction p generalizing s with
  | done a => exact .done
  | ask q next ih =>
    have rest := ih (handler q s).1 (handler q s).2
    exact .ask (allowed s q) rest

/-- The environment in which questions are answered as by a handler. -/
def ofHandler (handler : Handler I σ) : Environment I σ :=
  fun s q answer s' => handler q s = (answer, s')

theorem runs_ofHandler (handler : Handler I σ) (p : Program I α) (s : σ) :
    Runs (ofHandler handler) p s (p.trace handler s) (p.run handler s).1 (p.run handler s).2 :=
  .of_run handler (fun _ _ => rfl) p s

/-! ## Programs that may fail -/

variable {ε : Type} {s s' : σ} {ms : List (Moment I σ)}

theorem runs_run_pure_iff {a : α} {r : Except ε α} :
    Runs env (pure a : ExceptT ε (Program I) α).run s ms r s' ↔ ms = [] ∧ r = .ok a ∧ s' = s := by
  rw [ExceptT.run_pure, runs_pure_iff]

theorem runs_run_throw_iff {e : ε} {r : Except ε α} :
    Runs env (throw e : ExceptT ε (Program I) α).run s ms r s' ↔
      ms = [] ∧ r = .error e ∧ s' = s := by
  rw [ExceptT.run_throw, runs_pure_iff]

theorem runs_run_lift_iff {p : Program I α} {r : Except ε α} :
    Runs env (ExceptT.lift p : ExceptT ε (Program I) α).run s ms r s' ↔
      ∃ a, r = .ok a ∧ Runs env p s ms a s' := by
  rw [ExceptT.run_lift, map_eq_pure_bind, runs_map_iff]

/-- A sequence fails with its first part, or its first part succeeds and the second follows. -/
theorem runs_run_bind_iff {x : ExceptT ε (Program I) α} {f : α → ExceptT ε (Program I) β}
    {r : Except ε β} :
    Runs env (x >>= f).run s ms r s' ↔
      (∃ e, r = .error e ∧ Runs env x.run s ms (.error e) s') ∨
      ∃ a s₁ ms₁ ms₂, ms = ms₁ ++ ms₂ ∧ Runs env x.run s ms₁ (.ok a) s₁ ∧
        Runs env (f a).run s₁ ms₂ r s' := by
  rw [ExceptT.run_bind, runs_bind_iff]
  constructor
  · rintro ⟨a | e, s₁, ms₁, ms₂, rfl, run, last⟩
    · obtain ⟨rfl, rfl, rfl⟩ := runs_pure_iff.mp last
      exact .inl ⟨_, rfl, by rwa [List.append_nil]⟩
    · exact .inr ⟨_, s₁, ms₁, ms₂, rfl, run, last⟩
  · rintro (⟨e, rfl, run⟩ | ⟨a, s₁, ms₁, ms₂, rfl, run, last⟩)
    · exact ⟨.error e, s', ms, [], (List.append_nil ms).symm, run,
        runs_pure_iff.mpr ⟨rfl, rfl, rfl⟩⟩
    · exact ⟨.ok a, s₁, ms₁, ms₂, rfl, run, last⟩

/-- Likewise where the sequence may fail later. -/
theorem runs_run_question_bind_iff {q : I.Question} {f : I.Answer q → ExceptT ε (Program I) β}
    {r : Except ε β} :
    Runs env (ExceptT.lift (question q) >>= f).run s ms r s' ↔
      ∃ answer s₁ rest, ms = ⟨s, q, answer⟩ :: rest ∧ env s q answer s₁ ∧
        Runs env (f answer).run s₁ rest r s' :=
  runs_question_bind_iff

end Program

end VmDeploy
