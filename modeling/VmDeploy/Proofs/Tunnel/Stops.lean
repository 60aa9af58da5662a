import VmDeploy.Proofs.Program.Runs
import VmDeploy.Proofs.Tunnel.Accounts

/-!
# Stops while a tunnel is started

One start is looked at step by step, and behind each of its steps the tunnel may be stopped, any
number of times. A stop is called at a moment here: it is over before the start goes on. That is
enough for what a tunnel does until somebody stops it. `TunnelStops` keeps what each stop found
when it was called, so that it can be said whether one was called yet. What starts and stops do
whose steps lie between each other is told over an `Interleaving`.

Between two steps of its start a tunnel stands where the start has brought it, or it was stopped
(`TunnelStops.Stands`). That is what a step preserves.
-/

set_option autoImplicit false

namespace VmDeploy

/-! ## Deeds -/

namespace TunnelStep

/-- Whether a step looks for a wish to stop, polls, or reaches the world. -/
def isDeed : TunnelStep → Bool
  | .isAskedToStop | .poll | .world _ => true
  | _ => false

/-- Whether an error is told that does not end the tunnel. -/
def reports : TunnelStep → Bool
  | .world (.report _) => true
  | _ => false

/-- A deed changes nothing that the callers share. -/
theorem effect_of_isDeed {core : TunnelCore} {step : TunnelStep} (deed : step.isDeed = true) :
    core.effect step = core := by
  cases step with
  | isAskedToStop | poll | world _ => rfl
  | _ => cases deed

end TunnelStep

/-! ## What a stop does -/

namespace TunnelCore

/-- What a stop leaves. -/
def stopped (core : TunnelCore) : TunnelCore :=
  { state := core.state.move .stopped, stopping := true }

/-- What a stop leaves of a tunnel that has not failed. -/
def halted : TunnelCore := { state := .stopped, stopping := true }

/-- What a tunnel is that dials. -/
def dialing : TunnelCore := { state := .dialing }

/-- What a tunnel is that has a listener. -/
def holding (state : TunnelState) (listener : ListenerRef) : TunnelCore :=
  { state, listener := some listener }

variable {core core' : TunnelCore}

/-- Another stop changes nothing. -/
@[simp] theorem stopped_stopped : core.stopped.stopped = core.stopped := by
  obtain ⟨state, listener, stopping⟩ := core
  cases state <;> rfl

theorem stopped_eq_halted (may : core.state.canMoveTo .stopped = true) : core.stopped = halted := by
  unfold stopped TunnelState.move
  rw [if_pos may]
  rfl

/-- Nothing brings a stopped tunnel back. -/
@[simp] theorem effect_halted (step : TunnelStep) : halted.effect step = halted := by
  cases step with
  | move next => exact congrArg (TunnelCore.mk · none true) (TunnelState.move_stopped next)
  | _ => rfl

/-- However a stop goes, it leaves the same. -/
theorem stopped_of_runs {ms : List (Moment tunnelSteps TunnelCore)} {r : Except TunnelError Unit}
    (run : Program.Runs TunnelCore.Answers Tunnel.stop.run core ms r core') :
    core' = core.stopped := by
  obtain ⟨_, _, _, -, asked, run⟩ := Program.runs_run_question_bind_iff.mp run
  obtain ⟨_, _, _, -, moved, run⟩ := Program.runs_run_question_bind_iff.mp run
  obtain ⟨listener, _, _, -, taken, run⟩ := Program.runs_run_question_bind_iff.mp run
  have swept : _ = core.stopped := taken.core_eq.trans <| by rw [moved.core_eq, asked.core_eq]; rfl
  cases listener with
  | none =>
    obtain ⟨-, -, rfl⟩ := Program.runs_run_pure_iff.mp run
    exact swept
  | some listener =>
    obtain ⟨_, -, run⟩ := Program.runs_map_iff.mp run
    obtain ⟨-, closed⟩ := Program.runs_question_iff.mp run
    exact closed.core_eq.trans swept

end TunnelCore

/-! ## Stops between the steps of a start -/

/-- What the callers of a tunnel share, and what each stop found when it was called, the first one
first. -/
structure TunnelStops where
  core : TunnelCore := {}
  found : List TunnelCore := []

/-- A step of a start, and what was shared and stopped before. -/
abbrev TunnelMoment := Moment tunnelSteps TunnelStops

namespace TunnelStops

/-- The tunnel is stopped any number of times. -/
inductive Meanwhile (s : TunnelStops) : TunnelStops → Prop
  | none : Meanwhile s s
  | stop {s' : TunnelStops} {core : TunnelCore} {ms : List (Moment tunnelSteps TunnelCore)}
      {r : Except TunnelError Unit} (before : Meanwhile s s')
      (run : Program.Runs TunnelCore.Answers Tunnel.stop.run s'.core ms r core) :
      Meanwhile s ⟨core, s'.found ++ [s'.core]⟩

/-- Steps of a start. Behind each the tunnel may be stopped. -/
def Interrupted : Environment tunnelSteps TunnelStops :=
  fun s step answer s' => ∃ core, s.core.Answers step answer core ∧ Meanwhile ⟨core, s.found⟩ s'

variable {s s' : TunnelStops} {step : TunnelStep} {answer : step.Answer}

/-- However many stops there were, the tunnel is as one of them leaves it. -/
theorem Meanwhile.eq_or (stops : Meanwhile s s') :
    s' = s ∨ s'.core = s.core.stopped ∧ s'.found ≠ [] := by
  induction stops with
  | none => exact .inl rfl
  | stop _ run ih =>
    refine .inr ⟨(TunnelCore.stopped_of_runs run).trans ?_, List.concat_ne_nil _ _⟩
    obtain rfl | ⟨halts, -⟩ := ih
    · rfl
    · rw [halts, TunnelCore.stopped_stopped]

/-- The tunnel was stopped. -/
structure Halted (s : TunnelStops) : Prop where
  core : s.core = .halted
  stopped : s.found ≠ []

/-- The tunnel stands where its start has brought it, or it was stopped. -/
def Stands (core : TunnelCore) (s : TunnelStops) : Prop := s = ⟨core, []⟩ ∨ s.Halted

variable {core : TunnelCore}

/-- Stops make a tunnel halt that has not failed. -/
theorem Meanwhile.stands (stops : Meanwhile ⟨core, []⟩ s)
    (may : core.state.canMoveTo .stopped = true) : s.Stands core := by
  obtain rfl | ⟨halts, stopped⟩ := stops.eq_or
  · exact .inl rfl
  · exact .inr ⟨halts.trans (TunnelCore.stopped_eq_halted may), stopped⟩

/-- A tunnel that was stopped stays so. -/
theorem Halted.next (halted : s.Halted) (taken : Interrupted s step answer s') : s'.Halted := by
  obtain ⟨core, answered, stops⟩ := taken
  obtain rfl : core = .halted := by
    rw [answered.core_eq, halted.core, TunnelCore.effect_halted]
  obtain rfl | ⟨halts, stopped⟩ := stops.eq_or
  · exact ⟨rfl, halted.stopped⟩
  · exact ⟨halts, stopped⟩

/-- Who finds that the tunnel was asked to stop finds it stopped. -/
theorem Stands.halted_of_look (stands : s.Stands core) (running : core.stopping = false)
    (taken : Interrupted s .isAskedToStop true s') : s.Halted := by
  obtain rfl | halted := stands
  · obtain ⟨_, answered, -⟩ := taken
    cases answered.isAskedToStop.trans running
  · exact halted

variable {core' : TunnelCore}

/-- A step of a start brings the tunnel on, unless it was stopped. -/
theorem Stands.next (stands : s.Stands core) (taken : Interrupted s step answer s')
    (brings : core.effect step = core') (may : core'.state.canMoveTo .stopped = true) :
    s'.Stands core' := by
  obtain rfl | halted := stands
  · obtain ⟨_, answered, stops⟩ := taken
    cases answered.core_eq.trans brings
    exact stops.stands may
  · exact .inr (halted.next taken)

/-- A deed leaves the tunnel where it stands. -/
theorem Stands.deed (stands : s.Stands core) (taken : Interrupted s step answer s')
    (deed : step.isDeed = true) (may : core.state.canMoveTo .stopped = true) : s'.Stands core :=
  stands.next taken (TunnelStep.effect_of_isDeed deed) may

end TunnelStops

/-! ## What a start does -/

/-- A deed and its answer. -/
abbrev TunnelDeed := (step : TunnelStep) × step.Answer

namespace TunnelDeed

/-- What was asked of the world. -/
abbrev world (need : TunnelNeed) (answer : need.Answer) : TunnelDeed := ⟨.world need, answer⟩

/-- A look for a wish to stop. -/
abbrev look (stop : Bool) : TunnelDeed := ⟨.isAskedToStop, stop⟩

/-- A poll, if there was a listener. -/
abbrev poll (polled : Option (Except StreamError (Option ConnectionRef))) : TunnelDeed :=
  ⟨.poll, polled⟩

/-- The deeds among the steps of a start. -/
def ofMoments {σ : Type} (ms : List (Moment tunnelSteps σ)) : List TunnelDeed :=
  ms.filterMap fun m => if m.question.isDeed then some ⟨m.question, m.answer⟩ else none

variable {σ : Type} {s : σ} {ms ms' : List (Moment tunnelSteps σ)}

@[simp] theorem ofMoments_nil : ofMoments ([] : List (Moment tunnelSteps σ)) = [] := rfl

@[simp] theorem ofMoments_append : ofMoments (ms ++ ms') = ofMoments ms ++ ofMoments ms' :=
  List.filterMap_append

@[simp] theorem ofMoments_look {stop : Bool} :
    ofMoments (⟨s, .isAskedToStop, stop⟩ :: ms) = look stop :: ofMoments ms := rfl

@[simp] theorem ofMoments_poll {polled : Option (Except StreamError (Option ConnectionRef))} :
    ofMoments (⟨s, .poll, polled⟩ :: ms) = poll polled :: ofMoments ms := rfl

@[simp] theorem ofMoments_move {next : TunnelState} {moved : Bool} :
    ofMoments (⟨s, .move next, moved⟩ :: ms) = ofMoments ms := rfl

/-- Steps that are no deeds are left out. -/
theorem ofMoments_eq_nil (silent : ∀ m ∈ ms, m.question.isDeed = false) : ofMoments ms = [] := by
  refine List.filterMap_eq_nil_iff.mpr fun m mem => ?_
  rw [silent m mem]
  rfl

end TunnelDeed

/-! ## What holds all along a start -/

namespace TunnelPhase

/-- Whether the caller is one who starts the tunnel. -/
def isStart : TunnelPhase → Bool
  | .waiting | .asked | .marked | .taken _ | .halted => false
  | _ => true

/-- What each step of a program preserves that keeps to the protocol, given what was done before,
holds where it ends. -/
theorem Obeys.along {σ α : Type} {env : Environment tunnelSteps σ}
    (Inv : TunnelPhase → List (Moment tunnelSteps σ) → σ → Prop)
    (kept : ∀ {p p' : TunnelPhase} {step : TunnelStep} {answer : step.Answer} {s s' : σ}
      {past : List (Moment tunnelSteps σ)}, Moves p step answer p' → env s step answer s' →
        Inv p past s → Inv p' (past ++ [⟨s, step, answer⟩]) s')
    {p : TunnelPhase} {x : TunnelProgram α} {Q : α → TunnelPhase → Prop} {s s' : σ} {a : α}
    {ms : List (Moment tunnelSteps σ)} (obeys : p.Obeys x Q) (past : List (Moment tunnelSteps σ))
    (run : Program.Runs env x s ms a s') (here : Inv p past s) :
    ∃ p', Q a p' ∧ Inv p' (past ++ ms) s' := by
  induction run generalizing p past with
  | done => exact ⟨p, obeys, by rwa [List.append_nil]⟩
  | ask answered _ ih =>
    obtain ⟨p₁, moves, rest⟩ := obeys _
    obtain ⟨p', ended, inv⟩ := ih rest _ (kept moves answered here)
    exact ⟨p', ended, by rwa [List.append_assoc] at inv⟩

end TunnelPhase

/-- What holds of the steps that a start has taken, and of what it found. -/
structure StartAccount (p : TunnelPhase) (past : List TunnelMoment) (s : TunnelStops) : Prop where
  starts : p.isStart = true
  /-- Only stops ask the tunnel to stop. -/
  asked : s.core.stopping = true ↔ s.found ≠ []
  /-- Who looks finds out whether a stop was called. -/
  looks : ∀ s stop, ⟨s, .isAskedToStop, stop⟩ ∈ past → (stop = true ↔ s.found ≠ [])
  /-- It is told once how the start went. -/
  told : past.countP (·.question.tells) = p.hasTold.toNat

namespace StartAccount

variable {p p' : TunnelPhase} {step : TunnelStep} {answer : step.Answer} {s s' : TunnelStops}
  {past : List TunnelMoment}

/-- A start takes no step of a stop. -/
theorem starts_next (moves : TunnelPhase.Moves p step answer p') (starts : p.isStart = true) :
    p'.isStart = true ∧ step ≠ .askToStop := by
  cases moves with
  | ask | mark | takeNone | take | close => cases starts
  | serve serving =>
    refine ⟨rfl, ?_⟩
    rintro rfl
    cases serving
  | _ => exact ⟨rfl, nofun⟩

theorem asked_next (taken : TunnelStops.Interrupted s step answer s') (other : step ≠ .askToStop)
    (asked : s.core.stopping = true ↔ s.found ≠ []) :
    s'.core.stopping = true ↔ s'.found ≠ [] := by
  obtain ⟨core, answered, stops⟩ := taken
  have same : core.stopping = s.core.stopping := by
    rw [answered.core_eq, TunnelCore.effect_stopping_of_ne other]
  obtain rfl | ⟨halts, stopped⟩ := stops.eq_or
  · rwa [← same] at asked
  · exact ⟨fun _ => stopped, fun _ => by rw [halts]; rfl⟩

/-- Every step of a start keeps the account. -/
theorem next (moves : TunnelPhase.Moves p step answer p')
    (taken : TunnelStops.Interrupted s step answer s') (account : StartAccount p past s) :
    StartAccount p' (past ++ [⟨s, step, answer⟩]) s' := by
  obtain ⟨starts, other⟩ := starts_next moves account.starts
  refine ⟨starts, asked_next taken other account.asked, ?looks, ?told⟩
  case looks =>
    intro s₀ stop mem
    rcases List.mem_append.mp mem with mem | mem
    · exact account.looks s₀ stop mem
    · cases List.mem_singleton.mp mem
      obtain ⟨_, answered, -⟩ := taken
      rw [answered.isAskedToStop]
      exact account.asked
  case told =>
    rw [List.countP_append, account.told, moves.hasTold, List.countP_singleton]
    cases step.tells <;> rfl

/-- Nothing was done yet. -/
theorem fresh : StartAccount .fresh [] {} where
  starts := rfl
  asked := by simp
  looks := nofun
  told := rfl

end StartAccount

/-! ## Stops that can be computed -/

namespace TunnelStops

/-- In any world a stop may be called at any moment. -/
theorem meanwhile_stopped (world : Program.Handler tunnelWorld Unit) (core : TunnelCore)
    (found : List TunnelCore) : Meanwhile ⟨core, found⟩ ⟨core.stopped, found ++ [core]⟩ := by
  let answers : Program.Handler tunnelSteps TunnelCore := fun step core =>
    let reply := TunnelCore.handler world step (core, ())
    (reply.1, reply.2.1)
  have run : Program.Runs TunnelCore.Answers Tunnel.stop.run core _ _ _ :=
    Program.Runs.of_run answers (fun _ _ => ⟨world, rfl⟩) _ core
  rw [TunnelCore.stopped_of_runs run] at run
  exact .stop .none run

/-- A world in which the tunnel is stopped behind the first step that is chosen. -/
def handler (world : Program.Handler tunnelWorld Unit) (chosen : TunnelStep → Bool) :
    Program.Handler tunnelSteps TunnelStops
  | step, s =>
    let reply := TunnelCore.handler world step (s.core, ())
    if chosen step && s.found.isEmpty then (reply.1, ⟨reply.2.1.stopped, s.found ++ [reply.2.1]⟩)
    else (reply.1, ⟨reply.2.1, s.found⟩)

theorem interrupted_handler {world : Program.Handler tunnelWorld Unit}
    {chosen : TunnelStep → Bool} (s : TunnelStops) (step : TunnelStep) :
    Interrupted s step (handler world chosen step s).1 (handler world chosen step s).2 := by
  unfold handler
  dsimp only
  split
  · exact ⟨_, ⟨world, rfl⟩, meanwhile_stopped world _ _⟩
  · exact ⟨_, ⟨world, rfl⟩, .none⟩

end TunnelStops

end VmDeploy
