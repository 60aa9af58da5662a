import VmDeploy.Proofs.Tunnel.Balance

/-!
# Where a tunnel stands while it is started

At most one start makes a tunnel dial. Between its steps the others take theirs: starts that are
refused, and stops, each of which asks the tunnel to stop, moves its state, and takes the listener
out of the slot, in three steps. `TunnelPhase.Stands` says of each phase of the start that dials
what the callers share then, and what may have happened so far.

Two laws carry it. Whoever did not make the tunnel dial takes its steps aside (`TunnelCore.Aside`),
and those leave the tunnel standing in the phase of the other caller (`TunnelPhase.Stands.aside`).
A step of the start itself leads from where the tunnel stands in one phase to where it stands in
the next (`TunnelPhase.Moves.stands`). So it stands there in every interleaving
(`Standing.of_interleaving`).
-/

set_option autoImplicit false

namespace VmDeploy

/-! ## Dialing -/

namespace TunnelCore

/-- The tunnel dials: it has left the state in which it was made, and there is no listener in its
slot yet. The start looks for a stop for the last time in the step in which it puts the listener
there, so that ends it. A stop that comes later finds the listener in the slot and closes it,
although the start moves the state to `listening` with its next step only. -/
def Dials (core : TunnelCore) : Prop := core.state = .dialing ∧ core.listener = none

/-- The tunnel dials, or was not used yet. -/
def IsEarly (core : TunnelCore) : Prop := core.state = .created ∨ core.Dials

end TunnelCore

/-- The answer to a look for a wish to stop. -/
def TunnelStep.looked? : (step : TunnelStep) → step.Answer → Option Bool
  | .isAskedToStop, stop => some stop
  | _, _ => none

/-- Who looks is answered out of what all share. -/
theorem TunnelCore.Answers.looked? {core core' : TunnelCore} {step : TunnelStep}
    {answer : step.Answer} (answered : core.Answers step answer core') {stop : Bool}
    (looked : step.looked? answer = some stop) : stop = core.stopping := by
  cases step with
  | isAskedToStop => exact (Option.some.inj looked).symm.trans answered.isAskedToStop
  | _ => cases looked

/-- What is told of how the start went. -/
def TunnelStep.told? : TunnelStep → Option (Except TunnelError Unit)
  | .world (.ready result) => some result
  | _ => none

theorem TunnelStep.tells_of_told? {step : TunnelStep} {result : Except TunnelError Unit}
    (told : step.told? = some result) : step.tells = true := by
  cases step with
  | world need =>
    cases need with
    | ready _ => rfl
    | _ => cases told
  | _ => cases told

namespace TunnelEvent

/-- The state was moved to `stopped` while the tunnel dialed: by a stop, or by the start when it
found out that the tunnel was asked to stop. -/
def StopsDialing (e : TunnelEvent) : Prop := e.step = .move .stopped ∧ e.before.Dials

/-- The answer to a look for a wish to stop. -/
def looked? (e : TunnelEvent) : Option Bool := e.step.looked? e.answer

/-- What was told of how the start went. -/
def told? (e : TunnelEvent) : Option (Except TunnelError Unit) := e.step.told?

end TunnelEvent

/-- The tunnel was stopped while it dialed. -/
def StoppedDialing (events : List TunnelEvent) : Prop := ∃ e ∈ events, e.StopsDialing

/-- Somebody asked the tunnel to stop. -/
def AskedToStop (events : List TunnelEvent) : Prop := ∃ e ∈ events, e.step = .askToStop

section Concat

variable {events : List TunnelEvent} {e : TunnelEvent}

theorem exists_mem_concat {α : Type} {P : α → Prop} {xs : List α} {x : α} :
    (∃ y ∈ xs ++ [x], P y) ↔ (∃ y ∈ xs, P y) ∨ P x := by
  simp only [List.mem_append, List.mem_singleton, or_and_right, exists_or, exists_eq_left]

theorem forall_mem_concat {α : Type} {P : α → Prop} {xs : List α} {x : α} :
    (∀ y ∈ xs ++ [x], P y) ↔ (∀ y ∈ xs, P y) ∧ P x := by
  rw [List.forall_mem_append, List.forall_mem_singleton]

theorem stoppedDialing_concat : StoppedDialing (events ++ [e]) ↔
    StoppedDialing events ∨ e.StopsDialing :=
  exists_mem_concat

theorem askedToStop_concat : AskedToStop (events ++ [e]) ↔
    AskedToStop events ∨ e.step = .askToStop :=
  exists_mem_concat

end Concat

/-! ## Phases -/

namespace TunnelPhase

/-- Whether it is a phase of the start that made the tunnel dial. -/
def hasDialed : TunnelPhase → Bool
  | .fresh | .refused | .waiting | .asked | .marked | .taken _ | .halted => false
  | .failing e | .fallen e | .told (.error e) => (Tunnel.stateAfter e).isSome
  | .dialing _ | .connected | .opened _ | .unkept _ | .kept | .risen | .told (.ok _) => true

/-- Whether it is a phase of a stop that has tried to move the state. -/
def hasMarked : TunnelPhase → Bool
  | .marked | .taken _ | .halted => true
  | _ => false

/-- The tunnel dials and was not stopped, or it was stopped while it dialed. -/
def Dialing (core : TunnelCore) (events : List TunnelEvent) : Prop :=
  core.Dials ∧ ¬StoppedDialing events ∨ core.state = .stopped ∧ StoppedDialing events

/-- The tunnel was stopped while it dialed, or it has failed and was not. -/
def Down (e : TunnelError) (core : TunnelCore) (events : List TunnelEvent) : Prop :=
  core.state = .stopped ∧ StoppedDialing events ∨
    e ≠ .stopped ∧ core.state = .failed ∧ ¬StoppedDialing events

/-- Nothing happened while there was a listener and the state was not moved on yet. -/
def Unheld (events : List TunnelEvent) : Prop :=
  ∀ e ∈ events, e.before.state = .dialing → e.before.listener = none

/-- Nobody asked the tunnel to stop until it had a listener. -/
def Undisturbed (events : List TunnelEvent) : Prop :=
  ∀ e ∈ events, e.step = .askToStop → ¬e.before.IsEarly

/-- The tunnel has a listener and was moved on, or it was stopped since. -/
def Up (core : TunnelCore) (events : List TunnelEvent) : Prop :=
  Undisturbed events ∧ core.state ≠ .created ∧ core.state ≠ .dialing

/-- Where the tunnel stands in the phases of the start that made it dial. -/
def Stands : TunnelPhase → TunnelCore → List TunnelEvent → Prop
  | .dialing _, core, events | .connected, core, events | .opened _, core, events =>
    Dialing core events ∧ Unheld events
  | .unkept _, core, events => Dialing core events ∧ Unheld events ∧ core.stopping = true
  | .failing e, core, events =>
    Dialing core events ∧ Unheld events ∧ (e = .stopped → core.stopping = true)
  | .fallen e, core, events | .told (.error e), core, events => Down e core events ∧ Unheld events
  | .kept, core, events =>
    Undisturbed events ∧ (core.state = .dialing ∧ core.listener ≠ none ∨ core.state = .stopped)
  | .risen, core, events | .told (.ok _), core, events => Up core events
  | _, _, _ => True

end TunnelPhase

/-! ## Steps aside -/

/-- What a caller does to what all share that did not make the tunnel dial. -/
inductive TunnelCore.Aside (core : TunnelCore) : TunnelStep → TunnelCore → Prop
  | idle {step : TunnelStep} (silent : step ≠ .askToStop) (still : step ≠ .move .stopped) :
    Aside core step core
  | ask : Aside core .askToStop { core with stopping := true }
  | mark : Aside core (.move .stopped) { core with state := core.state.move .stopped }
  | sweep (final : core.state = .stopped ∨ core.state = .failed) :
    Aside core .take { core with listener := none }

namespace TunnelPhase

variable {p p' : TunnelPhase} {step : TunnelStep} {answer : step.Answer}
  {core core' : TunnelCore} {events : List TunnelEvent} {k : Nat}

/-- Who did not make the tunnel dial steps aside. -/
theorem Moves.aside (moves : Moves p step answer p') (answered : core.Answers step answer core')
    (undialed : p'.hasDialed = false)
    (marked : p.hasMarked = true → core.state = .stopped ∨ core.state = .failed) :
    core.Aside step core' := by
  have after := answered.core_eq
  cases moves with
  | refuse =>
    have same : core' = core := by
      rw [after]
      show { core with state := core.state.move .dialing } = core
      rw [TunnelState.move, if_neg (by rw [← answered.move]; exact Bool.false_ne_true)]
    rw [same]
    exact .idle (by simp) (by simp)
  | lookBack | tellRefused | tellFallen | close =>
    rw [after]
    exact .idle (by simp) (by simp)
  | ask =>
    rw [after]
    exact .ask
  | mark =>
    rw [after]
    exact .mark
  | takeNone | take =>
    rw [after]
    exact .sweep (marked rfl)
  | fall down =>
    rw [hasDialed, down] at undialed
    cases undialed
  | _ => cases undialed

namespace Dialing

variable (dialing : Dialing core events)

include dialing

/-- A step that leaves all as it is leaves the tunnel dialing. -/
theorem idle (still : step ≠ .move .stopped) :
    Dialing core (events ++ [⟨k, step, answer, core, core⟩]) := by
  have same : StoppedDialing (events ++ [⟨k, step, answer, core, core⟩]) ↔ StoppedDialing events :=
    stoppedDialing_concat.trans (or_iff_left fun stops => still stops.1)
  unfold Dialing
  rwa [same]

theorem aside (aside : core.Aside step core') :
    Dialing core' (events ++ [⟨k, step, answer, core, core'⟩]) := by
  cases aside with
  | idle _ still => exact dialing.idle still
  | ask =>
    obtain ⟨⟨state, empty⟩, unstopped⟩ | ⟨state, stopped⟩ := dialing
    · refine .inl ⟨⟨state, empty⟩, fun stopped => ?_⟩
      rcases stoppedDialing_concat.mp stopped with stopped | ⟨step, -⟩
      · exact unstopped stopped
      · cases step
    · exact .inr ⟨state, stoppedDialing_concat.mpr (.inl stopped)⟩
  | mark =>
    obtain ⟨dials, -⟩ | ⟨state, stopped⟩ := dialing
    · refine .inr ⟨?_, stoppedDialing_concat.mpr (.inr ⟨rfl, dials⟩)⟩
      show core.state.move .stopped = .stopped
      rw [dials.1]
      rfl
    · refine .inr ⟨?_, stoppedDialing_concat.mpr (.inl stopped)⟩
      show core.state.move .stopped = .stopped
      rw [state, TunnelState.move_stopped]
  | sweep final =>
    obtain ⟨⟨state, empty⟩, unstopped⟩ | ⟨state, stopped⟩ := dialing
    · rcases final with final | final <;> cases state.symm.trans final
    · exact .inr ⟨state, stoppedDialing_concat.mpr (.inl stopped)⟩

/-- A tunnel that is not brought up is down then: it is moved to `stopped` while it dials, or made
fail, unless it was stopped before. -/
theorem fall {e : TunnelError} {next : TunnelState} {moved : Bool}
    (down : Tunnel.stateAfter e = some next) (answered : core.Answers (.move next) moved core') :
    Down e core' (events ++ [⟨k, .move next, moved, core, core'⟩]) := by
  have state : core'.state = core.state.move next := by
    rw [answered.core_eq]
    rfl
  obtain ⟨dials, unstopped⟩ | ⟨stays, stopped⟩ := dialing
  · rw [dials.1] at state
    by_cases wished : e = .stopped
    · subst wished
      cases down
      exact .inl ⟨state, stoppedDialing_concat.mpr (.inr ⟨rfl, dials⟩)⟩
    · obtain rfl : next = .failed := by
        cases e with
        | invalidState _ => cases down
        | stopped => exact absurd rfl wished
        | _ => exact (Option.some.inj down).symm
      refine .inr ⟨wished, state, fun stopped => ?_⟩
      rcases stoppedDialing_concat.mp stopped with stopped | ⟨step, -⟩
      · exact unstopped stopped
      · cases step
  · rw [stays, TunnelState.move_stopped] at state
    exact .inl ⟨state, stoppedDialing_concat.mpr (.inl stopped)⟩

/-- Where the tunnel dials it has no listener unless it was stopped. -/
theorem empty : core.state = .dialing → core.listener = none := by
  obtain ⟨⟨-, empty⟩, -⟩ | ⟨state, -⟩ := dialing
  · exact fun _ => empty
  · exact fun here => nomatch state.symm.trans here

end Dialing

/-- A tunnel that is down stays down. -/
theorem Down.next {e : TunnelError} (down : Down e core events)
    (answered : core.Answers step answer core') :
    Down e core' (events ++ [⟨k, step, answer, core, core'⟩]) := by
  have stays (final : core.state = .stopped ∨ core.state = .failed) : core'.state = core.state := by
    rw [answered.core_eq]
    exact TunnelCore.effect_final final
  obtain ⟨state, stopped⟩ | ⟨other, state, unstopped⟩ := down
  · exact .inl ⟨(stays (.inl state)).trans state, stoppedDialing_concat.mpr (.inl stopped)⟩
  · refine .inr ⟨other, (stays (.inr state)).trans state, fun stopped => ?_⟩
    rcases stoppedDialing_concat.mp stopped with stopped | ⟨-, dials, -⟩
    · exact unstopped stopped
    · cases state.symm.trans dials

theorem Down.undialing {e : TunnelError} (down : Down e core events) :
    core.state ≠ .dialing := by
  obtain ⟨state, -⟩ | ⟨-, state, -⟩ := down
  · rw [state]
    exact nofun
  · rw [state]
    exact nofun

theorem Unheld.concat (unheld : Unheld events) (here : core.state = .dialing → core.listener = none) :
    Unheld (events ++ [⟨k, step, answer, core, core'⟩]) :=
  forall_mem_concat.mpr ⟨unheld, here⟩

theorem Undisturbed.concat (undisturbed : Undisturbed events)
    (here : step = .askToStop → ¬core.IsEarly) :
    Undisturbed (events ++ [⟨k, step, answer, core, core'⟩]) :=
  forall_mem_concat.mpr ⟨undisturbed, here⟩

/-- Nothing was held before it went down, nor is anything since. -/
theorem Down.concat {e : TunnelError} (stands : Down e core events ∧ Unheld events)
    (answered : core.Answers step answer core') :
    Down e core' (events ++ [⟨k, step, answer, core, core'⟩]) ∧
      Unheld (events ++ [⟨k, step, answer, core, core'⟩]) :=
  ⟨stands.1.next answered, stands.2.concat fun here => absurd here stands.1.undialing⟩

/-- A tunnel that is up dials no more. -/
theorem Up.next (up : Up core events) (answered : core.Answers step answer core') :
    Up core' (events ++ [⟨k, step, answer, core, core'⟩]) := by
  obtain ⟨undisturbed, used, undialing⟩ := up
  refine ⟨undisturbed.concat ?_, ?_⟩
  · rintro - (created | ⟨dialing, -⟩)
    · exact used created
    · exact undialing dialing
  · rcases answered.edge with same | moved
    · rw [same]
      exact ⟨used, undialing⟩
    · refine ⟨fun created => ?_, fun dialing => ?_⟩
      · rw [created, TunnelState.canMoveTo_created] at moved
        cases moved
      · rw [dialing] at moved
        exact used (TunnelState.eq_created_of_canMoveTo moved)

/-- Who asks a tunnel to stop that holds a listener does not disturb it, and who marks it moves it
nowhere but to `stopped`. -/
theorem Stands.aside_kept (stands : TunnelPhase.kept.Stands core events)
    (aside : core.Aside step core') (answered : core.Answers step answer core') :
    TunnelPhase.kept.Stands core' (events ++ [⟨k, step, answer, core, core'⟩]) := by
  obtain ⟨undisturbed, ⟨dialing, held⟩ | stopped⟩ := stands
  · refine ⟨undisturbed.concat ?_, ?_⟩
    · rintro - (created | ⟨-, empty⟩)
      · cases dialing.symm.trans created
      · exact held empty
    · cases aside with
      | idle _ _ | ask => exact .inl ⟨dialing, held⟩
      | mark =>
        right
        show core.state.move .stopped = .stopped
        rw [dialing]
        rfl
      | sweep final => rcases final with final | final <;> cases dialing.symm.trans final
  · refine ⟨undisturbed.concat ?_, .inr ?_⟩
    · rintro - (created | ⟨dialing, -⟩)
      · cases stopped.symm.trans created
      · cases stopped.symm.trans dialing
    · rw [answered.core_eq, TunnelCore.effect_final (.inl stopped), stopped]

/-- Who steps aside leaves the tunnel standing where it stands in the phase of another. -/
theorem Stands.aside (stands : p.Stands core events) (aside : core.Aside step core')
    (answered : core.Answers step answer core') :
    p.Stands core' (events ++ [⟨k, step, answer, core, core'⟩]) := by
  have stopping : core.stopping = true → core'.stopping = true := by
    rw [answered.core_eq]
    exact TunnelCore.effect_stopping
  cases p with
  | dialing _ | connected | opened _ =>
    obtain ⟨dialing, unheld⟩ := stands
    exact ⟨dialing.aside aside, unheld.concat dialing.empty⟩
  | unkept _ =>
    obtain ⟨dialing, unheld, asked⟩ := stands
    exact ⟨dialing.aside aside, unheld.concat dialing.empty, stopping asked⟩
  | failing e =>
    obtain ⟨dialing, unheld, asked⟩ := stands
    exact ⟨dialing.aside aside, unheld.concat dialing.empty, fun same => stopping (asked same)⟩
  | fallen e => exact Down.concat stands answered
  | kept => exact stands.aside_kept aside answered
  | risen => exact Up.next stands answered
  | told result =>
    cases result with
    | error e => exact Down.concat stands answered
    | ok _ => exact Up.next stands answered
  | _ => trivial

/-! ## Steps of the start -/

/-- Who made the tunnel dial did so with this step, or before. -/
theorem Moves.hasDialed (moves : Moves p step answer p') (dialed : p'.hasDialed = true) :
    p.hasDialed = true ∨ step.dials answer = true := by
  cases moves with
  | dial => exact .inr rfl
  | refuse | lookBack | ask | mark | takeNone | take | close => cases dialed
  | fall | tellRefused | tellFallen => exact .inl dialed
  | _ => exact .inl rfl

/-- What was told stands in a step. -/
theorem Moves.told? (moves : Moves p step answer p') {result : Except TunnelError Unit}
    (told : p' = .told result) : p = .told result ∨ step.told? = some result := by
  cases moves with
  | tellUp | tellRefused | tellFallen =>
    cases told
    exact .inr rfl
  | serve => exact .inl told
  | _ => cases told

/-- Who tries to move the state of a tunnel makes it final. -/
theorem Moves.hasMarked (moves : Moves p step answer p')
    (answered : core.Answers step answer core') (marked : p'.hasMarked = true) :
    p.hasMarked = true ∨ core'.state = .stopped ∨ core'.state = .failed := by
  cases moves with
  | mark =>
    right
    rw [answered.core_eq]
    show core.state.move .stopped = .stopped ∨ core.state.move .stopped = .failed
    cases core.state with
    | failed => exact .inr rfl
    | _ => exact .inl rfl
  | takeNone | take | close => exact .inl rfl
  | _ => cases marked

/-- Who takes the listener out of the slot has tried to move the state before. -/
theorem Moves.sweeps (moves : Moves p step answer p') (sweeps : step = .take) :
    p.hasMarked = true := by
  cases moves with
  | takeNone | take => rfl
  | serve serving =>
    cases sweeps
    cases serving
  | _ => cases sweeps

/-- Who moves the state to `stopped` while the tunnel dials knows that it was asked to stop. -/
theorem Moves.asked (moves : Moves p step answer p') (stops : step = .move .stopped)
    (dials : core.Dials) (stands : p.hasDialed = true → p.Stands core events)
    (stopping : p.isStopping = true → core.stopping = true) : core.stopping = true := by
  cases moves with
  | mark => exact stopping rfl
  | @fall e _ _ down =>
    cases stops
    have same : e = .stopped := by
      cases e with
      | stopped => rfl
      | _ => cases down
    obtain ⟨-, -, asked⟩ := stands (by rw [TunnelPhase.hasDialed, down]; rfl)
    exact asked same
  | serve serving =>
    obtain ⟨-, -, undialing⟩ := stands rfl
    exact absurd dials.1 undialing
  | _ => cases stops

/-- A tunnel that is moved to `dialing` was new, and nothing has happened to it. -/
theorem stands_dialing (created : core.state = .created)
    (fresh : core.listener = none ∧ ∀ e ∈ events, e.before.state = .created)
    {moved : Bool} (answered : core.Answers (.move .dialing) moved core') :
    Dialing core' (events ++ [⟨k, .move .dialing, moved, core, core'⟩]) ∧
      Unheld (events ++ [⟨k, .move .dialing, moved, core, core'⟩]) := by
  obtain ⟨empty, early⟩ := fresh
  refine ⟨.inl ⟨⟨?_, ?_⟩, fun stopped => ?_⟩, Unheld.concat (fun e mem here => ?_) fun _ => empty⟩
  · rw [answered.core_eq]
    show core.state.move .dialing = .dialing
    rw [created]
    rfl
  · rw [answered.core_eq]
    exact empty
  · rcases stoppedDialing_concat.mp stopped with ⟨e, mem, -, dials, -⟩ | ⟨step, -⟩
    · cases (early e mem).symm.trans dials
    · cases step
  · cases (early e mem).symm.trans here

/-- A listener is put into the slot only where nobody has asked the tunnel to stop. -/
theorem stands_kept {listener : ListenerRef} (dialing : Dialing core events)
    (running : ¬AskedToStop events) (unstopped : ¬StoppedDialing events)
    (answered : core.Answers (.keep listener) true core') :
    TunnelPhase.kept.Stands core' (events ++ [⟨k, .keep listener, true, core, core'⟩]) := by
  obtain ⟨⟨state, -⟩, -⟩ | ⟨-, stopped⟩ := dialing
  · refine ⟨Undisturbed.concat (fun e mem ask => absurd ⟨e, mem, ask⟩ running) nofun, .inl ?_⟩
    rw [answered.kept]
    exact ⟨state, nofun⟩
  · exact absurd stopped unstopped

/-- The state is moved on behind the listener, unless the tunnel was stopped in between. -/
theorem stands_risen (stands : TunnelPhase.kept.Stands core events) {moved : Bool}
    (answered : core.Answers (.move .listening) moved core') :
    Up core' (events ++ [⟨k, .move .listening, moved, core, core'⟩]) := by
  obtain ⟨undisturbed, here⟩ := stands
  have state : core'.state = .listening ∨ core'.state = .stopped := by
    rw [answered.core_eq]
    show core.state.move .listening = .listening ∨ core.state.move .listening = .stopped
    obtain ⟨dialing, -⟩ | stopped := here
    · rw [dialing]
      exact .inl rfl
    · rw [stopped]
      exact .inr rfl
  refine ⟨undisturbed.concat nofun, ?_⟩
  obtain state | state := state <;> rw [state] <;> exact ⟨nofun, nofun⟩

/-- A step of the start that dials leads on to where the tunnel stands then. -/
theorem Moves.stands (moves : Moves p step answer p') (answered : core.Answers step answer core')
    (dialed : p'.hasDialed = true) (stands : p.hasDialed = true → p.Stands core events)
    (fresh : core.state = .created → core.listener = none ∧ ∀ e ∈ events, e.before.state = .created)
    (asks : core.stopping = true ↔ AskedToStop events)
    (asked : StoppedDialing events → AskedToStop events) :
    p'.Stands core' (events ++ [⟨k, step, answer, core, core'⟩]) := by
  have after := answered.core_eq
  -- A step that leaves all as it is leaves the tunnel dialing.
  have deed (same : core' = core) (still : step ≠ .move .stopped)
      (here : Dialing core events ∧ Unheld events) :
      Dialing core' (events ++ [⟨k, step, answer, core, core'⟩]) ∧
        Unheld (events ++ [⟨k, step, answer, core, core'⟩]) := by
    cases same
    exact ⟨here.1.idle still, here.2.concat here.1.empty⟩
  cases moves with
  | dial =>
    have created := TunnelState.eq_created_of_canMoveTo answered.move.symm
    exact stands_dialing created (fresh created) answered
  | readKey | connect | missConnect | rest | goOn | listen => exact deed after nofun (stands rfl)
  | missKey | lose | missListen =>
    obtain ⟨dialing, unheld⟩ := deed after nofun (stands rfl)
    exact ⟨dialing, unheld, nofun⟩
  | giveUp =>
    obtain ⟨dialing, unheld⟩ := deed after nofun (stands rfl)
    refine ⟨dialing, unheld, fun _ => ?_⟩
    rw [after]
    exact answered.isAskedToStop.symm
  | keep =>
    have running : ¬AskedToStop events := by
      rw [← asks, Bool.not_eq_true]
      simpa using answered.keep.symm
    exact stands_kept (stands rfl).1 running (running ∘ asked) answered
  | missKeep =>
    obtain ⟨dialing, unheld⟩ := deed answered.unkept nofun (stands rfl)
    refine ⟨dialing, unheld, ?_⟩
    rw [answered.unkept]
    simpa using answered.keep.symm
  | closeUnkept =>
    obtain ⟨dialing, unheld, stopping⟩ := stands rfl
    obtain ⟨dialing, unheld⟩ := deed after nofun ⟨dialing, unheld⟩
    refine ⟨dialing, unheld, fun _ => ?_⟩
    rw [after]
    exact stopping
  | rise => exact stands_risen (stands rfl) answered
  | tellUp => exact Up.next (stands rfl) answered
  | serve => exact Up.next (stands rfl) answered
  | tellFallen => exact Down.concat (stands dialed) answered
  | tellRefused stays =>
    rw [TunnelPhase.hasDialed, stays] at dialed
    cases dialed
  | @fall e next _ down =>
    obtain ⟨dialing, unheld, -⟩ := stands (by rw [TunnelPhase.hasDialed, down]; rfl)
    exact ⟨dialing.fall down answered, unheld.concat dialing.empty⟩
  | refuse | lookBack | ask | mark | takeNone | take | close => cases dialed

end TunnelPhase

/-! ## All along an interleaving -/

/-- Where the tunnel stands among all its callers, and what happened until then. -/
structure Standing (cs : List TunnelCaller) (core : TunnelCore) (events : List TunnelEvent) :
    Prop where
  asks : core.stopping = true ↔ AskedToStop events
  fresh : core.state = .created → ∀ e ∈ events, e.before.state = .created
  early : core.Dials → ∀ e ∈ events, e.before.IsEarly
  asked : ∀ e ∈ events, e.StopsDialing → e.before.stopping = true ∧ core.stopping = true
  marked : ∀ c ∈ cs, c.phase.hasMarked = true → core.state = .stopped ∨ core.state = .failed
  dialed : ∀ k c, cs[k]? = some c → c.phase.hasDialed = true →
    ∃ e ∈ events, e.caller = k ∧ e.dials = true
  told : ∀ k c result, cs[k]? = some c → c.phase = .told result →
    ∃ e ∈ events, e.caller = k ∧ e.told? = some result
  stands : ∀ c ∈ cs, c.phase.hasDialed = true → c.phase.Stands core events

/-- There is no listener in a tunnel that is new. -/
theorem Balanced.empty_of_created {calls : List TunnelCall} {cs : List TunnelCaller}
    {core : TunnelCore} {events : List TunnelEvent} (balanced : Balanced calls cs core events)
    (created : core.state = .created) : core.listener = none := by
  cases stored : core.listener with
  | none => rfl
  | some listener =>
    obtain ⟨e, mem, opened⟩ := balanced.slot listener stored
    have least : 0 < events.countP (·.opens) :=
      List.countP_pos_iff.mpr ⟨e, mem, Option.isSome_iff_exists.mpr ⟨listener, opened⟩⟩
    have unused : core.unused = 1 := by
      unfold TunnelCore.unused
      rw [decide_eq_true created]
      rfl
    have most := balanced.opens
    omega

namespace Standing

variable {calls : List TunnelCall} {cs : List TunnelCaller} {core core' : TunnelCore}
  {events : List TunnelEvent} {k : Nat} {c c' : TunnelCaller} {step : TunnelStep}
  {answer : step.Answer} (standing : Standing cs core events)
  (turn : TunnelTurn cs core k c c' step answer core')

include standing turn

theorem asks_next : core'.stopping = true ↔
    AskedToStop (events ++ [⟨k, step, answer, core, core'⟩]) := by
  rw [askedToStop_concat, ← standing.asks, turn.answered.core_eq]
  by_cases ask : step = .askToStop
  · subst ask
    exact iff_of_true rfl (.inr rfl)
  · rw [TunnelCore.effect_stopping_of_ne ask]
    exact (or_iff_left ask).symm

theorem fresh_next (created : core'.state = .created) :
    ∀ e ∈ events ++ [⟨k, step, answer, core, core'⟩], e.before.state = .created := by
  rcases turn.answered.edge with same | edge
  · rw [created] at same
    exact forall_mem_concat.mpr ⟨standing.fresh same.symm, same.symm⟩
  · rw [created, TunnelState.canMoveTo_created] at edge
    cases edge

/-- While the tunnel dials nobody has taken a listener out of the slot yet. -/
theorem early_next (dials : core'.Dials) :
    ∀ e ∈ events ++ [⟨k, step, answer, core, core'⟩], e.before.IsEarly := by
  rcases turn.answered.edge with same | edge
  · have dialing : core.state = .dialing := same.symm.trans dials.1
    have keeps : step ≠ .take := fun sweeps => by
      rcases standing.marked c turn.mem (turn.moves.sweeps sweeps) with final | final <;>
        cases dialing.symm.trans final
    have empty : core.listener = none :=
      TunnelCore.effect_listener_of_ne keeps (turn.answered.core_eq ▸ dials.2)
    exact forall_mem_concat.mpr ⟨standing.early ⟨dialing, empty⟩, .inr ⟨dialing, empty⟩⟩
  · rw [dials.1] at edge
    have created := TunnelState.eq_created_of_canMoveTo edge
    exact forall_mem_concat.mpr
      ⟨fun e mem => .inl (standing.fresh created e mem), .inl created⟩

theorem marked_next : ∀ c ∈ cs.set k c', c.phase.hasMarked = true →
    core'.state = .stopped ∨ core'.state = .failed := by
  have kept (final : core.state = .stopped ∨ core.state = .failed) :
      core'.state = .stopped ∨ core'.state = .failed := by
    rw [turn.answered.core_eq, TunnelCore.effect_final final]
    exact final
  refine turn.forall_mem (fun c mem marked => kept (standing.marked c mem marked)) fun marked => ?_
  rcases turn.moves.hasMarked turn.answered marked with marked | final
  · exact kept (standing.marked c turn.mem marked)
  · exact final

theorem dialed_next (j : Nat) (d : TunnelCaller) (there : (cs.set k c')[j]? = some d)
    (dialed : d.phase.hasDialed = true) :
    ∃ e ∈ events ++ [⟨k, step, answer, core, core'⟩], e.caller = j ∧ e.dials = true := by
  rcases getElem?_set_cases turn.here there with ⟨rfl, rfl⟩ | ⟨-, there⟩
  · rcases turn.moves.hasDialed dialed with before | dials
    · exact exists_mem_concat.mpr (.inl (standing.dialed _ _ turn.here before))
    · exact exists_mem_concat.mpr (.inr ⟨rfl, dials⟩)
  · exact exists_mem_concat.mpr (.inl (standing.dialed _ _ there dialed))

theorem told_next (j : Nat) (d : TunnelCaller) (result : Except TunnelError Unit)
    (there : (cs.set k c')[j]? = some d) (told : d.phase = .told result) :
    ∃ e ∈ events ++ [⟨k, step, answer, core, core'⟩], e.caller = j ∧ e.told? = some result := by
  rcases getElem?_set_cases turn.here there with ⟨rfl, rfl⟩ | ⟨-, there⟩
  · rcases turn.moves.told? told with before | tells
    · exact exists_mem_concat.mpr (.inl (standing.told _ _ _ turn.here before))
    · exact exists_mem_concat.mpr (.inr ⟨rfl, tells⟩)
  · exact exists_mem_concat.mpr (.inl (standing.told _ _ _ there told))

variable (balanced : Balanced calls cs core events)

include balanced

/-- Whoever moves the state to `stopped` while the tunnel dials comes behind one who asked for it. -/
theorem asked_next : ∀ e ∈ events ++ [⟨k, step, answer, core, core'⟩],
    e.StopsDialing → e.before.stopping = true ∧ core'.stopping = true := by
  have kept (asked : core.stopping = true) : core'.stopping = true := by
    rw [turn.answered.core_eq]
    exact core.effect_stopping asked
  refine forall_mem_concat.mpr ⟨fun e mem stops => ?_, fun stops => ?_⟩
  · obtain ⟨before, now⟩ := standing.asked e mem stops
    exact ⟨before, kept now⟩
  · have asked := turn.moves.asked stops.1 stops.2 (standing.stands c turn.mem)
      (balanced.stopping c turn.mem)
    exact ⟨asked, kept asked⟩

/-- Only one caller makes the tunnel dial, and the others step aside. -/
theorem stands_next : ∀ d ∈ cs.set k c', d.phase.hasDialed = true →
    d.phase.Stands core' (events ++ [⟨k, step, answer, core, core'⟩]) := by
  intro d mem dialed
  obtain ⟨j, there⟩ := List.getElem?_of_mem mem
  rcases getElem?_set_cases turn.here there with ⟨rfl, rfl⟩ | ⟨other, old⟩
  · refine turn.moves.stands turn.answered dialed (standing.stands c turn.mem) ?_ standing.asks ?_
    · exact fun created => ⟨balanced.empty_of_created created, standing.fresh created⟩
    · rintro ⟨e, mem, stops⟩
      exact standing.asks.mp (standing.asked e mem stops).2
  · have undialed : c'.phase.hasDialed = false := by
      rw [← Bool.not_eq_true]
      intro dialed'
      have here : (cs.set k c')[k]? = some c' := by
        obtain ⟨bound, -⟩ := List.getElem?_eq_some_iff.mp turn.here
        exact List.getElem?_set_self bound
      obtain ⟨e, mem, own, dials⟩ := standing.dialed_next turn j d there dialed
      obtain ⟨e', mem', own', dials'⟩ := standing.dialed_next turn k c' here dialed'
      have one := (Nat.le_add_left _ _).trans (turn.dials balanced)
      cases eq_of_countP_le_one one mem mem' dials dials'
      exact other (own.symm.trans own')
    exact (standing.stands d (List.mem_of_getElem? old) dialed).aside
      (turn.moves.aside turn.answered undialed (standing.marked c turn.mem)) turn.answered

/-- The tunnel stands behind every step where it is to stand. -/
theorem next : Standing (cs.set k c') core' (events ++ [⟨k, step, answer, core, core'⟩]) where
  asks := standing.asks_next turn
  fresh := standing.fresh_next turn
  early := standing.early_next turn
  asked := standing.asked_next turn balanced
  marked := standing.marked_next turn
  dialed := standing.dialed_next turn
  told := standing.told_next turn
  stands := standing.stands_next turn balanced

omit standing turn balanced

/-- Before anybody takes a step the tunnel is new, and nobody has dialed, told or marked. -/
theorem first {t : Tunnel} :
    Standing (calls.map fun call => ⟨call, call.firstPhase, call.program t⟩) {} [] := by
  have each {P : TunnelCaller → Prop}
      (here : ∀ call, P ⟨call, call.firstPhase, call.program t⟩) :
      ∀ c ∈ calls.map fun call => TunnelCaller.mk call call.firstPhase (call.program t), P c :=
    List.forall_mem_map.mpr fun call _ => here call
  have undialed := each (P := fun c => c.phase.hasDialed = false) fun call => by cases call <;> rfl
  have untold := each (P := fun c => c.phase.hasTold = false) fun call => by cases call <;> rfl
  have unmarked := each (P := fun c => c.phase.hasMarked = false) fun call => by cases call <;> rfl
  refine {
    asks := iff_of_false Bool.false_ne_true fun ⟨_, mem, _⟩ => List.not_mem_nil mem
    fresh := fun _ => List.forall_mem_nil _
    early := fun _ => List.forall_mem_nil _
    asked := List.forall_mem_nil _
    marked := fun c mem marked => ?marked
    dialed := fun k c here dialed => ?dialed
    told := fun k c result here told => ?told
    stands := fun c mem dialed => ?stands }
  case marked =>
    rw [unmarked c mem] at marked
    cases marked
  case dialed =>
    rw [undialed c (List.mem_of_getElem? here)] at dialed
    cases dialed
  case told =>
    have silent := untold c (List.mem_of_getElem? here)
    rw [told] at silent
    cases silent
  case stands =>
    rw [undialed c mem] at dialed
    cases dialed

/-- In every interleaving the accounts are balanced and the tunnel stands where it is to stand. -/
theorem of_interleaving {t : Tunnel} {s : TunnelScene}
    (run : Interleaving (.ofCalls t calls) events s) :
    ∃ cs : List TunnelCaller, s.callers = cs.map (·.rest) ∧ Balanced calls cs s.core events ∧
      Standing cs s.core events :=
  Balanced.along Standing first (fun balanced turn standing => standing.next turn balanced) run

end Standing

end VmDeploy
