import Mathlib.Data.List.Nodup
import VmDeploy.Proofs.Services.Steps
import VmDeploy.Simulation.World

/-!
# What the outcome of a step tells

The outcome of a name is how the step of that name ended that ended last. How the one ended that
started last (`StageLog.latestEnding?`) may be something else, in two ways: it is still running and
another has ended before (`StageLog.Outdated`), or it was performed inside another of that name,
which has ended since in another way (`StageLog.Overruled`).

There are no other ways. At every moment of every run of a program that performs steps, what is told
follows `StageLog.OutcomeLaw`, whatever steps are inside which and however often one is performed.
-/

set_option autoImplicit false

namespace VmDeploy

open StepCourse (allOf eventsOf)

/-! ## The law -/

namespace StageLog

/-- The number of the step of a name that started last. -/
def latest? (log : StageLog) (step : String) : Option Nat :=
  (log.events.reverse.find? fun e => e.step = step ∧ e.state = .started).map (·.index)

/-- How the step of a number ended, if it has. -/
def ending? (log : StageLog) (index : Nat) : Option StepState :=
  (log.events.find? fun e => e.index = index ∧ e.state ≠ .started).map (·.state)

/-- How the step of a name ended that started last, if there is one and it has ended. -/
def latestEnding? (log : StageLog) (step : String) : Option StepState :=
  (log.latest? step).bind log.ending?

/-- The step of a name that started last is running, and another of that name has ended. -/
def Outdated (log : StageLog) (step : String) : Prop :=
  ∃ i, log.latest? step = some i ∧ log.ending? i = none ∧
    ∃ e ∈ log.events, e.step = step ∧ e.state ≠ .started

/-- The step of the first number is that of the second or was performed inside it. That one has the
name and has ended in the state, and nothing has been noted of the name since. -/
def Within (log : StageLog) (step : String) (i j : Nat) (state : StepState) : Prop :=
  ∃ before inner message after,
    log.events =
        before ++ ⟨step, j, .started, none⟩ :: inner ++ ⟨step, j, state, message⟩ :: after ∧
      state ≠ .started ∧ (i = j ∨ ⟨step, i, .started, none⟩ ∈ inner) ∧ ∀ e ∈ after, e.step ≠ step

/-- The step of a name that started last has ended, and so has one of that name around it, but in
another way. -/
def Overruled (log : StageLog) (step : String) : Prop :=
  ∃ i j state state', log.latest? step = some i ∧ log.ending? i = some state ∧
    log.Within step i j state' ∧ state' ≠ state

/-- What is told of the steps of a name. -/
structure OutcomeLaw (log : StageLog) (step : String) : Prop where
  /-- Nothing is told before one of them has started. -/
  unstarted : log.latest? step = none → log.outcome? step = none
  /-- While the one that started last is running, the outcome is still that from before its start,
  and none of the others has been noted since. -/
  running : ∀ i, log.latest? step = some i → log.ending? i = none → ∃ before after,
    log.events = before ++ ⟨step, i, .started, none⟩ :: after ∧ (∀ e ∈ after, e.step ≠ step) ∧
      log.outcome? step = { log with events := before }.outcome? step
  /-- When that one has ended, the outcome is the ending of the outermost of them around it that has
  ended too, or its own if there is none. -/
  ended : ∀ i state, log.latest? step = some i → log.ending? i = some state →
    ∃ j state', log.Within step i j state' ∧ log.outcome? step = some state'
  /-- The outcome is how the one ended that started last, but for two ways. -/
  agrees_iff : log.outcome? step = log.latestEnding? step ↔
    ¬ log.Outdated step ∧ ¬ log.Overruled step

variable {log : StageLog} {step : String}

/-- The last of the notes of a kind. -/
theorem find?_reverse_of_last {p : StepEvent → Prop} [DecidablePred p] {e : StepEvent}
    {events before after : List StepEvent} (split : events = before ++ e :: after) (here : p e)
    (silent : ∀ a ∈ after, ¬ p a) : (events.reverse.find? fun e => p e) = some e := by
  refine List.find?_eq_some_iff_append.mpr
    ⟨decide_eq_true here, after.reverse, before.reverse, by simp [split], fun a mem => ?_⟩
  simpa using silent a (List.mem_reverse.mp mem)

/-- The outcome is that of the step of the name that ended last. -/
theorem outcome?_of_within {i j : Nat} {state : StepState} (within : log.Within step i j state) :
    log.outcome? step = some state := by
  obtain ⟨before, inner, message, after, split, later, -, silent⟩ := within
  rw [outcome?, find?_reverse_of_last split ⟨rfl, later⟩ fun a mem told => silent a mem told.1]
  rfl

/-- Nothing is told as long as no step of the name has ended. -/
theorem outcome?_eq_none_iff :
    log.outcome? step = none ↔ ∀ e ∈ log.events, e.step = step → e.state = .started := by
  rw [outcome?, Option.map_eq_none_iff, List.find?_eq_none]
  simp

/-- A start of a step of the name changes nothing. -/
theorem outcome?_of_silent {i : Nat} {before after : List StepEvent}
    (split : log.events = before ++ ⟨step, i, .started, none⟩ :: after)
    (silent : ∀ e ∈ after, e.step ≠ step) :
    log.outcome? step = { log with events := before }.outcome? step := by
  have nothing : (StepEvent.mk step i .started none :: after).reverse.find?
      (fun e => e.step = step ∧ e.state ≠ .started) = none := by
    rw [List.find?_eq_none]
    intro e mem told
    rw [List.mem_reverse, List.mem_cons] at mem
    obtain ⟨named, later⟩ := of_decide_eq_true told
    rcases mem with rfl | mem
    · exact later rfl
    · exact silent e mem named
  rw [outcome?, split, List.reverse_append, List.find?_append, nothing, Option.none_or, outcome?]

/-- The step of a name that started last is known by its number. -/
theorem latestEnding?_of_latest {i : Nat} (latest : log.latest? step = some i) :
    log.latestEnding? step = log.ending? i := by
  rw [latestEnding?, latest, Option.bind_some]

/-- Only the outermost step can overrule the one that started last. -/
theorem overruled_iff {i j : Nat} {state state' : StepState} (latest : log.latest? step = some i)
    (ending : log.ending? i = some state) (within : log.Within step i j state') :
    log.Overruled step ↔ state' ≠ state := by
  constructor
  · rintro ⟨i', j', state₁, state₂, same, ended, within', other⟩
    obtain rfl : i = i' := Option.some.inj (latest.symm.trans same)
    obtain rfl : state = state₁ := Option.some.inj (ending.symm.trans ended)
    -- Of both steps around it the ending is the outcome.
    rwa [← Option.some.inj ((outcome?_of_within within').symm.trans (outcome?_of_within within))]
  · exact fun other => ⟨i, j, state, state', latest, ending, within, other⟩

/-- How it stands with the steps of a name. -/
inductive OutcomeCase (log : StageLog) (step : String) : Prop
  | unstarted (latest : log.latest? step = none) (untold : log.outcome? step = none)
  | running (i : Nat) (before after : List StepEvent) (latest : log.latest? step = some i)
      (ending : log.ending? i = none)
      (split : log.events = before ++ ⟨step, i, .started, none⟩ :: after)
      (silent : ∀ e ∈ after, e.step ≠ step)
  | ended (i j : Nat) (state state' : StepState) (latest : log.latest? step = some i)
      (ending : log.ending? i = some state) (within : log.Within step i j state')

theorem OutcomeCase.law (stands : log.OutcomeCase step) : log.OutcomeLaw step := by
  cases stands with
  | unstarted latest untold =>
    exact
      { unstarted := fun _ => untold
        running := by simp [latest]
        ended := by simp [latest]
        agrees_iff := by simp [latestEnding?, Outdated, Overruled, latest, untold] }
  | running i before after latest ending split silent =>
    refine
      { unstarted := by simp [latest]
        running := fun j same _ => ?_
        ended := fun j state same ended => ?_
        agrees_iff := ?_ }
    · obtain rfl : i = j := Option.some.inj (latest.symm.trans same)
      exact ⟨before, after, split, silent, outcome?_of_silent split silent⟩
    · obtain rfl : i = j := Option.some.inj (latest.symm.trans same)
      cases ending.symm.trans ended
    · rw [latestEnding?_of_latest latest, ending, outcome?_eq_none_iff]
      simp [Outdated, Overruled, latest, ending]
  | ended i j state state' latest ending within =>
    have told : log.outcome? step = some state' := outcome?_of_within within
    refine
      { unstarted := by simp [latest]
        running := by simp [latest, ending]
        ended := fun i' _ same _ => ?_
        agrees_iff := ?_ }
    · obtain rfl : i = i' := Option.some.inj (latest.symm.trans same)
      exact ⟨j, state', within, told⟩
    · have current : ¬ log.Outdated step := by simp [Outdated, latest, ending]
      rw [told, latestEnding?_of_latest latest, ending, overruled_iff latest ending within,
        not_not, Option.some_inj]
      exact (and_iff_right current).symm

end StageLog

/-! ## Progress and the law -/

/-- The step of a name that started last is found by the note of its start. -/
theorem StepCourse.find?_opening (name : String) (cs : List StepCourse) :
    (eventsOf cs).reverse.find? (fun e => e.step = name ∧ e.state = .started)
      = ((allOf cs).reverse.find? (·.name = name)).map opening := by
  have openings : (eventsOf cs).filter (·.state = .started) = (allOf cs).map opening :=
    filter_started
  have started := congrArg (·.reverse.find? (·.step = name)) openings
  simp only [← List.filter_reverse, ← List.map_reverse, List.find?_filter, List.find?_map]
    at started
  refine Eq.trans (congrArg (List.find? · _) (funext fun e => ?_)) started
  simp only [decide_eq_true_eq, and_comm]

namespace StepProgress

variable {p : StepProgress} {c : StepCourse} {log : StageLog} {step : String}

/-- The end of a step is found by its number. -/
theorem ending?_of_ended (noted : log.events = p.events) (distinct : p.numbers.Nodup)
    (mem : c ∈ p.ended) : log.ending? c.index = some c.closing.state := by
  have apart : (p.ended.map StepCourse.index).Nodup :=
    (List.nodup_append.mp (numbers_perm.nodup distinct)).1
  cases found : log.events.find? fun e => e.index = c.index ∧ e.state ≠ .started with
  | none =>
    rw [noted] at found
    exact absurd (decide_eq_true ⟨rfl, StepCourse.closing_state_ne⟩)
      (List.find?_eq_none.mp found c.closing (closing_mem mem))
  | some e =>
    obtain ⟨same, later⟩ : e.index = c.index ∧ e.state ≠ .started := by
      simpa using List.find?_some found
    obtain ⟨d, mem', rfl⟩ :=
      exists_of_mem_events (noted ▸ List.mem_of_find?_eq_some found) later
    obtain rfl : d = c := List.inj_on_of_nodup_map apart mem' mem same
    rw [StageLog.ending?, found]
    rfl

/-- A step that is running has not ended. -/
theorem ending?_of_underWay {i : Nat} (noted : log.events = p.events) (distinct : p.numbers.Nodup)
    (mem : i ∈ p.underWay) : log.ending? i = none := by
  obtain ⟨-, -, apart⟩ := List.nodup_append.mp (numbers_perm.nodup distinct)
  rw [StageLog.ending?, Option.map_eq_none_iff, List.find?_eq_none, noted]
  intro e mem' holds
  obtain ⟨same, later⟩ := of_decide_eq_true holds
  obtain ⟨c, ended, rfl⟩ := exists_of_mem_events mem' later
  exact apart c.index (List.mem_map_of_mem ended) i mem same

/-- Of the steps of a name that are inside one of that name, and it, one started last. -/
theorem exists_latest {before after : List StepEvent}
    (noted : log.events = before ++ c.events ++ after) (named : c.name = step)
    (silent : ∀ e ∈ after, e.step ≠ step) :
    ∃ d ∈ allOf [c], d.name = step ∧ log.latest? step = some d.index := by
  have behind : after.reverse.find? (fun e => e.step = step ∧ e.state = .started) = none := by
    rw [List.find?_eq_none]
    intro e mem holds
    exact silent e (List.mem_reverse.mp mem) (of_decide_eq_true holds).1
  have own : eventsOf [c] = c.events := List.append_nil _
  cases found : (allOf [c]).reverse.find? (·.name = step) with
  | none =>
    have first : c ∈ (allOf [c]).reverse := by simp [StepCourse.allOf_singleton]
    exact absurd (decide_eq_true named) (List.find?_eq_none.mp found c first)
  | some d =>
    refine ⟨d, List.mem_reverse.mp (List.mem_of_find?_eq_some found), ?_, ?_⟩
    · simpa using List.find?_some found
    · rw [StageLog.latest?, noted, List.reverse_append, List.find?_append, behind, Option.none_or,
        List.reverse_append, List.find?_append, ← own, StepCourse.find?_opening, found]
      rfl

theorem outcomeCase (noted : log.events = p.events) (distinct : p.numbers.Nodup) :
    log.OutcomeCase step := by
  cases p.last step with
  | never silent =>
    rw [← noted] at silent
    have none (kind : StepEvent → Prop) [DecidablePred kind] :
        (log.events.reverse.find? fun e => e.step = step ∧ kind e) = none := by
      rw [List.find?_eq_none]
      intro e mem holds
      exact silent e (List.mem_reverse.mp mem) (of_decide_eq_true holds).1
    refine .unstarted ?_ ?_
    · rw [StageLog.latest?, none fun e => e.state = .started, Option.map_none]
    · rw [StageLog.outcome?, none fun e => e.state ≠ .started, Option.map_none]
  | underWay i before after mem split silent =>
    rw [← noted] at split
    refine .running i before after ?_ (ending?_of_underWay noted distinct mem) split silent
    rw [StageLog.latest?, StageLog.find?_reverse_of_last split ⟨rfl, rfl⟩ fun a mem told =>
      silent a mem told.1]
    rfl
  | ended c before after mem named split silent =>
    rw [← noted] at split
    obtain ⟨d, inside, named', latest⟩ := exists_latest split named silent
    refine .ended d.index c.index d.closing.state c.closing.state latest
      (ending?_of_ended noted distinct (mem_ended_of_mem mem inside))
      ⟨before, eventsOf c.inner, c.closing.message, after, ?_, StepCourse.closing_state_ne, ?_,
        silent⟩
    · rw [split, StepCourse.events_eq, ← named]
      simp [StepCourse.opening, StepCourse.closing]
    · by_cases same : d = c
      · exact .inl (congrArg _ same)
      · refine .inr ?_
        have noted := StepCourse.opening_mem inside same
        rw [StepCourse.opening, named'] at noted
        exact noted

end StepProgress

/-! ## Runs -/

/-- In every state that a stepwise program reaches from a new stage, a name is in one of the
cases. -/
theorem ServiceProgram.Stepwise.outcomeCase {σ α : Type} {env : Environment services σ}
    {stage : σ → StageLog} {p : ServiceProgram α} (stepwise : p.Stepwise)
    (keeps : env.KeepsStage stage) {s s' : σ} {name : String} (new : stage s = { name })
    (reaches : Program.Reaches env p s s') (step : String) : (stage s').OutcomeCase step := by
  obtain ⟨progress, stands⟩ := stepwise.stands keeps reaches
  rw [new] at stands
  have distinct : progress.numbers.Nodup := by
    rw [stands.numbers]
    exact List.nodup_range'
  exact StepProgress.outcomeCase stands.events distinct

/-- At every moment of every run of a program that performs steps, what is told of a name follows
the law. -/
theorem outcomeLaw_of_reaches {σ α : Type} {env : Environment services σ} {stage : σ → StageLog}
    (keeps : env.KeepsStage stage) {p : ServiceProgram α} (stepwise : p.Stepwise) {s s' : σ}
    {name : String} (new : stage s = { name }) (reaches : Program.Reaches env p s s')
    (step : String) : (stage s').OutcomeLaw step :=
  (stepwise.outcomeCase keeps new reaches step).law

/-! ## Runs against simulated services -/

namespace Simulation.World

/-- A sleep leaves the stage alone, however long the clock goes on. -/
theorem stage_sleep (span : Duration) (w : World) : (w.sleep span).stage = w.stage := by
  -- By `rfl` alone the time of waking would be computed.
  rw [World.sleep]

/-- Only notes on steps change the stage. -/
theorem stage_handler {q : services.Question} (other : q.marksStep = false) (w : World) :
    (handler q w).2.stage = w.stage := by
  cases q with
  | startStep _ | finishStep _ _ _ _ => cases other
  | cloud _ | registry _ | startTunnel _ | stopTunnel _ | buildState _ _ _ _ =>
    dsimp only [handler, askCloud, askRegistry, startTunnel, stopTunnel, buildState]
    split <;> rfl
  | sleep span => exact stage_sleep span w
  | agent _ _ | vm _ _ | openTunnel _ | freshRecord | now | warn _ _ => rfl

/-- The simulated services keep a stage. -/
theorem keepsStage : (Program.ofHandler handler).KeepsStage stage where
  started noted := by
    cases noted
    exact ⟨rfl, rfl⟩
  finished noted := by
    cases noted
    rfl
  others {s _ q _} other answered := by
    have left := stage_handler other s
    rwa [answered] at left

end Simulation.World

open Simulation (World)

/-- A step that was skipped is performed again, and sleeps. -/
def repeatedStep : ServiceProgram (Except Failure (Option Unit)) := do
  let _ ← performStep "Deploying" (return .skipped "no VM" : ServiceProgram (StepEnd Unit))
  performStep "Deploying" do
    MonadSleep.sleep .zero
    return .finished ()

theorem stepwise_repeatedStep : repeatedStep.Stepwise :=
  .bind (.performStep .done) fun _ => .performStep (.ask rfl fun _ => .done)

/-- The services while the step sleeps that is performed again. -/
def asleep : World where
  stage := {
    name := "", steps := 2
    events := [⟨"Deploying", 1, .started, none⟩, ⟨"Deploying", 1, .skipped, some "no VM"⟩,
      ⟨"Deploying", 2, .started, none⟩] }

/-- While the step sleeps it is still told that it was skipped. -/
theorem repeatedStep_outcomeLaw_of_reaches :
    (Program.ofHandler World.handler).KeepsStage World.stage ∧ repeatedStep.Stepwise ∧
      World.stage {} = { name := "" } ∧
      Program.Reaches (Program.ofHandler World.handler) repeatedStep {} asleep ∧
      asleep.stage.OutcomeLaw "Deploying" ∧
      asleep.stage.latestEnding? "Deploying" = none ∧
      asleep.stage.outcome? "Deploying" = some .skipped := by
  have reaches : Program.Reaches (Program.ofHandler World.handler) repeatedStep {} asleep :=
    .ask rfl (.ask rfl (.ask rfl .here))
  exact ⟨World.keepsStage, stepwise_repeatedStep, rfl, reaches,
    outcomeLaw_of_reaches World.keepsStage stepwise_repeatedStep rfl reaches "Deploying",
    by decide +kernel, by decide +kernel⟩

/-- A step inside a step of its name, which fails behind it. -/
def nestedNamesake : ServiceProgram (Except Failure (Option Unit)) :=
  performStep "Deploying" do
    let _ ← performStep "Deploying" (return .finished () : ServiceProgram (StepEnd Unit))
    return .failed (.plain "no answer")

theorem stepwise_nestedNamesake : nestedNamesake.Stepwise :=
  .performStep (.bind (.performStep .done) fun _ => .done)

/-- Of steps inside steps of their name it is not told how the one ended that started last. -/
theorem outcome_of_nestedNamesake :
    ¬ ∀ (σ α : Type) (env : Environment services σ) (stage : σ → StageLog) (p : ServiceProgram α)
      (s s' : σ) (name step : String), env.KeepsStage stage → p.Stepwise → stage s = { name } →
        Program.Reaches env p s s' →
          (stage s').outcome? step = (stage s').latestEnding? step := by
  intro agrees
  have run := Program.runs_ofHandler World.handler nestedNamesake {}
  have told := agrees _ _ _ World.stage nestedNamesake {} _ "" "Deploying" World.keepsStage
    stepwise_nestedNamesake rfl run.reaches.2
  have outer : (nestedNamesake.run World.handler {}).2.stage.outcome? "Deploying"
      = some .failed := by
    decide +kernel
  have inner : (nestedNamesake.run World.handler {}).2.stage.latestEnding? "Deploying"
      = some .finished := by
    decide +kernel
  rw [outer, inner] at told
  cases told

end VmDeploy
