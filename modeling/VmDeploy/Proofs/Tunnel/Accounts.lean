import VmDeploy.Proofs.Tunnel.Protocol

/-!
# What a step of a caller changes

A step is taken by one caller in its phase, and it is answered out of what the callers share. For
each account that has to come out even among all callers there is a law about one step: who may
open a listener and who holds one, who may connect, and who has told its result. A step moves
something from one side of an account to the other, or it leaves both as they were.
-/

set_option autoImplicit false

namespace VmDeploy

/-! ## What a step is -/

namespace TunnelStep

/-- Whether the tunnel was made to dial. -/
def dials : (step : TunnelStep) → step.Answer → Bool
  | .move .dialing, moved => moved
  | _, _ => false

/-- The listener that was opened, if one was. -/
def opened? : (step : TunnelStep) → step.Answer → Option ListenerRef
  | .world (.listen _ _), .ok listener => some listener
  | _, _ => none

/-- The listener that was closed, if one was. -/
def closed? : TunnelStep → Option ListenerRef
  | .world (.close listener) => some listener
  | _ => none

/-- Whether the remote server is dialed. -/
def connects : TunnelStep → Bool
  | .world (.connect _ _ _) => true
  | _ => false

/-- Whether the answer to a look lets who dials go on. -/
def goesOn : (step : TunnelStep) → step.Answer → Bool
  | .isAskedToStop, stop => !stop
  | _, _ => false

/-- Whether it is told how the start went. -/
def tells : TunnelStep → Bool
  | .world (.ready _) => true
  | _ => false

end TunnelStep

namespace TunnelCore

/-- What a step may be answered, and what that makes of what the callers share. Only the answers of
the world are free. -/
def Answers (core : TunnelCore) (step : TunnelStep) (answer : step.Answer) (core' : TunnelCore) :
    Prop :=
  ∃ world : Program.Handler tunnelWorld Unit,
    TunnelCore.handler world step (core, ()) = (answer, core', ())

/-- What a step makes of what the callers share. The world cannot reach that. -/
def effect (core : TunnelCore) : TunnelStep → TunnelCore
  | .move next => { core with state := core.state.move next }
  | .askToStop => { core with stopping := true }
  | .keep listener => if core.stopping then core else { core with listener := some listener }
  | .take => { core with listener := none }
  | .state | .isAskedToStop | .poll | .world _ => core

/-- One if the tunnel was never used. -/
def unused (core : TunnelCore) : Nat := (core.state = .created : Bool).toNat

/-- One if there is a listener in the slot. -/
def stored (core : TunnelCore) : Nat := core.listener.isSome.toNat

variable {core core' : TunnelCore} {step : TunnelStep} {answer : step.Answer}

theorem handler_core (world : Program.Handler tunnelWorld Unit) :
    (TunnelCore.handler world step (core, ())).2.1 = core.effect step := by
  cases step with
  | keep listener =>
    unfold TunnelCore.handler effect
    dsimp only
    split <;> rfl
  | poll =>
    unfold TunnelCore.handler
    dsimp only
    split <;> rfl
  | _ => rfl

theorem Answers.core_eq (answered : core.Answers step answer core') :
    core' = core.effect step := by
  obtain ⟨world, here⟩ := answered
  rw [← handler_core world, here]

theorem Answers.move {next : TunnelState} {moved : Bool}
    (answered : core.Answers (.move next) moved core') : moved = core.state.canMoveTo next := by
  obtain ⟨world, here⟩ := answered
  exact (congrArg Prod.fst here).symm

theorem Answers.isAskedToStop {stop : Bool} (answered : core.Answers .isAskedToStop stop core') :
    stop = core.stopping := by
  obtain ⟨world, here⟩ := answered
  exact (congrArg Prod.fst here).symm

theorem Answers.keep {listener : ListenerRef} {kept : Bool}
    (answered : core.Answers (.keep listener) kept core') : kept = !core.stopping := by
  obtain ⟨world, here⟩ := answered
  have told : (TunnelCore.handler world (.keep listener) (core, ())).1 = !core.stopping := by
    unfold TunnelCore.handler
    dsimp only
    cases core.stopping <;> rfl
  rw [← told, here]

theorem Answers.take {listener : Option ListenerRef}
    (answered : core.Answers .take listener core') : listener = core.listener := by
  obtain ⟨world, here⟩ := answered
  exact (congrArg Prod.fst here).symm

theorem effect_keep_of_asked {listener : ListenerRef} (asked : core.stopping = true) :
    core.effect (.keep listener) = core := if_pos asked

theorem effect_keep {listener : ListenerRef} (running : core.stopping = false) :
    core.effect (.keep listener) = { core with listener := some listener } :=
  if_neg (by simp [running])

/-- A listener that was kept is in the slot. -/
theorem Answers.kept {listener : ListenerRef}
    (answered : core.Answers (.keep listener) true core') :
    core' = { core with listener := some listener } := by
  have running := answered.keep
  rw [Bool.true_eq, Bool.not_eq_true'] at running
  rw [answered.core_eq, effect_keep running]

/-- A listener that was not kept has changed nothing. -/
theorem Answers.unkept {listener : ListenerRef}
    (answered : core.Answers (.keep listener) false core') : core' = core := by
  have asked := answered.keep
  rw [Bool.false_eq, Bool.not_eq_false'] at asked
  rw [answered.core_eq, effect_keep_of_asked asked]

/-- Who looks finds out that the tunnel was asked to stop. -/
theorem Answers.goesOn (answered : core.Answers step answer core') (asked : core.stopping = true) :
    step.goesOn answer = false := by
  cases step with
  | isAskedToStop =>
    show (!answer) = false
    rw [answered.isAskedToStop, asked]
    rfl
  | _ => rfl

/-- A step leaves the state as it is or moves it where it may move. -/
theorem effect_state :
    (core.effect step).state = core.state ∨
      core.state.canMoveTo (core.effect step).state = true := by
  cases step with
  | move next =>
    by_cases allowed : core.state.canMoveTo next = true
    · exact .inr (by simp [effect, TunnelState.move, allowed])
    · exact .inl (by simp [effect, TunnelState.move, allowed])
  | keep listener =>
    cases asked : core.stopping with
    | true => exact .inl (by rw [effect_keep_of_asked asked])
    | false => exact .inl (by rw [effect_keep asked])
  | state | askToStop | isAskedToStop | take | poll | world _ => exact .inl rfl

theorem Answers.edge (answered : core.Answers step answer core') :
    core'.state = core.state ∨ core.state.canMoveTo core'.state = true := by
  rw [answered.core_eq]
  exact effect_state

/-- No step leads out of a stopped or failed tunnel. -/
theorem effect_final (final : core.state = .stopped ∨ core.state = .failed) :
    (core.effect step).state = core.state := by
  have edge : (core.effect step).state = core.state ∨
      core.state.canMoveTo (core.effect step).state = true := effect_state
  rcases edge with same | allowed
  · exact same
  · rcases final with here | here <;> rw [here] at allowed <;> cases allowed

/-- Nobody takes back that the tunnel was asked to stop. -/
theorem effect_stopping (asked : core.stopping = true) : (core.effect step).stopping = true := by
  cases step with
  | keep listener => rw [effect_keep_of_asked asked, asked]
  | askToStop => rfl
  | _ => exact asked

/-- Nothing but a stop asks for it. -/
theorem effect_stopping_of_ne (other : step ≠ .askToStop) :
    (core.effect step).stopping = core.stopping := by
  cases step with
  | askToStop => exact absurd rfl other
  | keep listener =>
    cases asked : core.stopping with
    | true => rw [effect_keep_of_asked asked, asked]
    | false => rw [effect_keep asked, asked]
  | _ => rfl

/-- A tunnel that was asked to stop gets nothing into its slot any more. -/
theorem effect_listener (asked : core.stopping = true) (empty : core.listener = none) :
    (core.effect step).listener = none := by
  cases step with
  | keep listener => rw [effect_keep_of_asked asked, empty]
  | take => rfl
  | _ => exact empty

/-- The slot is emptied by who takes the listener out of it. -/
theorem effect_listener_of_ne (other : step ≠ .take) (empty : (core.effect step).listener = none) :
    core.listener = none := by
  cases step with
  | take => exact absurd rfl other
  | keep listener =>
    cases asked : core.stopping with
    | true => rwa [effect_keep_of_asked asked] at empty
    | false =>
      rw [effect_keep asked] at empty
      cases empty
  | _ => exact empty

/-- Only a tunnel that was never used is made to dial, and then it is used. -/
theorem Answers.dials (answered : core.Answers step answer core') :
    core'.unused + (step.dials answer).toNat ≤ core.unused := by
  rw [answered.core_eq]
  cases step with
  | move next =>
    rw [answered.move]
    show (core.state.move next = .created : Bool).toNat +
      (TunnelStep.dials (.move next) (core.state.canMoveTo next)).toNat ≤
        (core.state = .created : Bool).toNat
    cases core.state <;> cases next <;> decide
  | keep listener =>
    cases asked : core.stopping with
    | true =>
      rw [effect_keep_of_asked asked]
      exact Nat.le_refl _
    | false =>
      rw [effect_keep asked]
      exact Nat.le_refl _
  | state | askToStop | isAskedToStop | take | poll | world _ => exact Nat.le_refl _

end TunnelCore

namespace TunnelPhase

/-- One if a listener may still be opened. -/
def mayOpen : TunnelPhase → Nat
  | .dialing _ | .connected => 1
  | _ => 0

/-- One if the remote server may be dialed without another look. -/
def mayConnect : TunnelPhase → Nat
  | .dialing true => 1
  | _ => 0

/-- The listener that is neither in the slot nor closed yet. -/
def listener? : TunnelPhase → Option ListenerRef
  | .opened listener | .unkept listener | .taken listener => some listener
  | _ => none

/-- One if there is such a listener. -/
def holds (p : TunnelPhase) : Nat := p.listener?.isSome.toNat

/-- Whether the tunnel was asked to stop. -/
def isStopping : TunnelPhase → Bool
  | .asked | .marked | .taken _ | .halted => true
  | _ => false

/-- Whether the slot was emptied. -/
def hasSwept : TunnelPhase → Bool
  | .taken _ | .halted => true
  | _ => false

/-- Whether it was told how the start went. -/
def hasTold : TunnelPhase → Bool
  | .told _ => true
  | _ => false

theorem mayConnect_le {p : TunnelPhase} : p.mayConnect ≤ p.mayOpen := by
  cases p with
  | dialing mayConnect => cases mayConnect <;> decide
  | _ => exact Nat.zero_le _

theorem isStopping_of_hasSwept {p : TunnelPhase} (swept : p.hasSwept = true) :
    p.isStopping = true := by
  cases p with
  | taken _ | halted => rfl
  | _ => cases swept

/-- Steps of a tunnel that serves do nothing that is reckoned with. -/
structure Idle (step : TunnelStep) (answer : step.Answer) : Prop where
  opened : step.opened? answer = none
  closed : step.closed? = none
  connects : step.connects = false
  tells : step.tells = false
  slot : ∀ core : TunnelCore, (core.effect step).listener = core.listener

theorem idle_of_serves {step : TunnelStep} (answer : step.Answer) (serving : serves step = true) :
    Idle step answer := by
  cases step with
  | move next =>
    cases next with
    | forwarding | stopped => exact ⟨rfl, rfl, rfl, rfl, fun _ => rfl⟩
    | _ => cases serving
  | isAskedToStop | poll => exact ⟨rfl, rfl, rfl, rfl, fun _ => rfl⟩
  | world need =>
    cases need with
    | dialLocal _ | splitLocal | forward _ | sleep _ | report _ =>
      exact ⟨rfl, rfl, rfl, rfl, fun _ => rfl⟩
    | _ => cases serving
  | _ => cases serving

namespace Moves

variable {p p' : TunnelPhase} {step : TunnelStep} {answer : step.Answer}
  {core core' : TunnelCore}

/-- Only who was let dial opens a listener, and only one. -/
theorem mayOpen (moves : Moves p step answer p') :
    p'.mayOpen + (step.opened? answer).isSome.toNat ≤
      p.mayOpen + (step.dials answer).toNat := by
  cases moves with
  | dial | readKey | connect | missConnect | rest | goOn | listen => exact Nat.le_refl _
  | serve serving =>
    rw [(idle_of_serves answer serving).opened]
    exact Nat.zero_le _
  | _ => exact Nat.zero_le _

/-- Who dialed in vain does so again only behind a look that found no wish to stop. -/
theorem mayConnect (moves : Moves p step answer p') :
    p'.mayConnect + step.connects.toNat ≤
      p.mayConnect + (step.dials answer).toNat + (step.goesOn answer).toNat := by
  cases moves with
  | dial | connect | missConnect | lose => exact Nat.le_refl _
  | readKey | rest => exact Nat.le_refl _
  | goOn => exact Nat.le_add_left _ _
  | serve serving =>
    rw [(idle_of_serves answer serving).connects]
    exact Nat.zero_le _
  | _ => exact Nat.zero_le _

/-- A listener is held from when it is opened or taken until it is put into the slot or closed. -/
theorem holds (moves : Moves p step answer p') (answered : core.Answers step answer core')
    (free : ∀ listener, p = .opened listener → core.listener = none) :
    core.stored + p.holds + (step.opened? answer).isSome.toNat =
      core'.stored + p'.holds + step.closed?.isSome.toNat := by
  have after := answered.core_eq
  cases moves with
  | keep =>
    unfold TunnelCore.stored
    rw [answered.kept, free _ rfl]
    rfl
  | missKeep =>
    rw [answered.unkept]
    rfl
  | takeNone | take =>
    unfold TunnelCore.stored
    rw [after, ← answered.take]
    rfl
  | serve serving =>
    have idle := idle_of_serves answer serving
    unfold TunnelCore.stored
    rw [after, idle.opened, idle.closed, idle.slot]
  | _ =>
    rw [after]
    rfl

/-- A listener that is held was held before, stood in the slot or was opened. -/
theorem listener? (moves : Moves p step answer p') (answered : core.Answers step answer core')
    {listener : ListenerRef} (held : p'.listener? = some listener) :
    p.listener? = some listener ∨ core.listener = some listener ∨
      step.opened? answer = some listener := by
  cases moves with
  | listen => exact .inr (.inr held)
  | missKeep => exact .inl held
  | take => exact .inr (.inl (answered.take.symm.trans held))
  | _ => cases held

/-- The slot is filled by who holds a listener. -/
theorem slot (moves : Moves p step answer p') (answered : core.Answers step answer core')
    {listener : ListenerRef} (stored : core'.listener = some listener) :
    core.listener = some listener ∨ p.listener? = some listener := by
  have after := answered.core_eq
  cases moves with
  | keep =>
    rw [answered.kept] at stored
    exact .inr stored
  | missKeep =>
    rw [answered.unkept] at stored
    exact .inl stored
  | takeNone | take =>
    rw [after] at stored
    cases stored
  | serve serving =>
    rw [after, (idle_of_serves answer serving).slot] at stored
    exact .inl stored
  | _ =>
    rw [after] at stored
    exact .inl stored

/-- Only a listener that is held is closed. -/
theorem closed? (moves : Moves p step answer p') {listener : ListenerRef}
    (closed : step.closed? = some listener) : p.listener? = some listener := by
  cases moves with
  | closeUnkept | close => exact closed
  | serve serving =>
    rw [(idle_of_serves answer serving).closed] at closed
    cases closed
  | _ => cases closed

/-- Who holds a listener that it did not just open closes it. -/
theorem closes (moves : Moves p step answer p') {listener : ListenerRef}
    (held : p.listener? = some listener) (settled : p ≠ .opened listener) :
    step.closed? = some listener := by
  cases moves with
  | keep | missKeep =>
    cases held
    exact absurd rfl settled
  | closeUnkept | close => exact held
  | _ => cases held

/-- Who has just opened a listener did that. -/
theorem opened (moves : Moves p step answer p') {listener : ListenerRef}
    (holds : p' = .opened listener) : step.opened? answer = some listener := by
  cases moves with
  | listen =>
    cases holds
    rfl
  | _ => cases holds

/-- Who stops the tunnel has asked it to. -/
theorem isStopping (moves : Moves p step answer p') (answered : core.Answers step answer core')
    (stopping : p'.isStopping = true) : p.isStopping = true ∨ core'.stopping = true := by
  cases moves with
  | ask =>
    rw [answered.core_eq]
    exact .inr rfl
  | mark | takeNone | take | close => exact .inl rfl
  | _ => cases stopping

/-- Who has emptied the slot did that. -/
theorem hasSwept (moves : Moves p step answer p') (answered : core.Answers step answer core')
    (swept : p'.hasSwept = true) : p.hasSwept = true ∨ core'.listener = none := by
  cases moves with
  | takeNone | take =>
    rw [answered.core_eq]
    exact .inr rfl
  | close => exact .inl rfl
  | _ => cases swept

/-- It is told once how the start went. -/
theorem hasTold (moves : Moves p step answer p') :
    p'.hasTold.toNat = p.hasTold.toNat + step.tells.toNat := by
  cases moves with
  | serve serving =>
    rw [(idle_of_serves answer serving).tells]
    rfl
  | _ => rfl

end Moves

end TunnelPhase

end VmDeploy
