import Mathlib.Algebra.Order.BigOperators.Group.List
import Mathlib.Algebra.Order.Ring.Nat
import VmDeploy.Proofs.Tunnel.Interleaving

/-!
# The accounts of all callers of a tunnel

The accounts of single steps add up to those of all callers. `Balanced` says that they come out
even: every listener that was opened stands in the slot, is held by one caller or is closed, and
whoever may still open or connect is the only one who may. It holds before anybody has begun, every
step keeps it (`Balanced.next`, from one law about a `TunnelTurn` for each account), and so it holds
in every interleaving (`Balanced.of_interleaving`).

Two consequences are drawn here because they are about the callers beside the accounts: in which
phase a call has returned, and who is left to close the listener then.
-/

set_option autoImplicit false

namespace VmDeploy

/-! ## Shares and counts -/

/-- Of many shares one changes. -/
theorem sum_map_set {α : Type} {f : α → Nat} {xs : List α} {k : Nat} {x y : α}
    (here : xs[k]? = some x) : ((xs.set k y).map f).sum + f x = (xs.map f).sum + f y := by
  induction xs generalizing k with
  | nil => cases here
  | cons z xs ih =>
    cases k with
    | zero =>
      cases here
      simp only [List.set_cons_zero, List.map_cons, List.sum_cons]
      omega
    | succ k =>
      have rest := ih here
      simp only [List.set_cons_succ, List.map_cons, List.sum_cons]
      omega

/-- Shares of one each come to a number of those who have one. -/
theorem sum_map_eq_countP {α : Type} {f : α → Nat} {g : α → Bool} {xs : List α}
    (share : ∀ x ∈ xs, f x = (g x).toNat) : (xs.map f).sum = xs.countP g := by
  induction xs with
  | nil => rfl
  | cons x xs ih =>
    have here := share x List.mem_cons_self
    have rest := ih fun x mem => share x (List.mem_cons_of_mem _ mem)
    rw [List.map_cons, List.sum_cons, here, rest, List.countP_cons]
    cases g x <;> simp [Nat.add_comm]

/-- What stands in a list of which one entry was replaced. -/
theorem getElem?_set_cases {α : Type} {xs : List α} {k j : Nat} {x y z : α}
    (here : xs[k]? = some x) (found : (xs.set k y)[j]? = some z) :
    (j = k ∧ z = y) ∨ (j ≠ k ∧ xs[j]? = some z) := by
  obtain ⟨bound, -⟩ := List.getElem?_eq_some_iff.mp here
  by_cases same : j = k
  · subst same
    rw [List.getElem?_set_self bound] at found
    exact .inl ⟨rfl, (Option.some.inj found).symm⟩
  · rw [List.getElem?_set_ne (Ne.symm same)] at found
    exact .inr ⟨same, found⟩

/-- How often something happened, with one event more. -/
theorem countP_concat {α : Type} {f : α → Bool} {xs : List α} {x : α} :
    (xs ++ [x]).countP f = xs.countP f + (f x).toNat := by
  rw [List.countP_append, List.countP_singleton]
  cases f x <;> rfl

/-- Two events of a kind of which there is at most one are the same. -/
theorem eq_of_countP_le_one {α : Type} {f : α → Bool} {xs : List α} {x y : α}
    (one : xs.countP f ≤ 1) (memX : x ∈ xs) (memY : y ∈ xs) (hx : f x = true) (hy : f y = true) :
    x = y := by
  rw [List.countP_eq_length_filter] at one
  have memX' := List.mem_filter.mpr ⟨memX, hx⟩
  have memY' := List.mem_filter.mpr ⟨memY, hy⟩
  generalize xs.filter f = kind at one memX' memY'
  obtain _ | ⟨z, _ | ⟨_, _⟩⟩ := kind
  · cases memX'
  · rw [List.mem_singleton.mp memX', List.mem_singleton.mp memY']
  · simp at one

/-! ## The accounts -/

/-- A caller, with its phase beside what is left of its program. -/
structure TunnelCaller where
  call : TunnelCall
  phase : TunnelPhase
  rest : TunnelProgram CallEnd

/-- A listener was opened. -/
def WasOpened (events : List TunnelEvent) (listener : ListenerRef) : Prop :=
  ∃ e ∈ events, e.opened? = some listener

/-- The accounts of all callers together, with those of what they share and of what happened. -/
structure Balanced (calls : List TunnelCall) (cs : List TunnelCaller) (core : TunnelCore)
    (events : List TunnelEvent) : Prop where
  calls : cs.map (·.call) = calls
  obeys : ∀ c ∈ cs, c.phase.Obeys c.rest fun _ p => c.call.Ends p
  dials : core.unused + events.countP (·.dials) ≤ 1
  opens : core.unused + (cs.map (·.phase.mayOpen)).sum + events.countP (·.opens) ≤ 1
  holds : events.countP (·.opens) =
    core.stored + (cs.map (·.phase.holds)).sum + events.countP (·.closes)
  connects : core.unused + (cs.map (·.phase.mayConnect)).sum + events.countP (·.connectsLate) ≤ 1
  early : core.stopping = false → events.countP (·.connectsLate) = 0
  held : ∀ c ∈ cs, ∀ listener, c.phase.listener? = some listener → WasOpened events listener
  slot : ∀ listener, core.listener = some listener → WasOpened events listener
  closed : ∀ e ∈ events, ∀ listener, e.closed? = some listener → WasOpened events listener
  stopping : ∀ c ∈ cs, c.phase.isStopping = true → core.stopping = true
  swept : ∀ c ∈ cs, c.phase.hasSwept = true → core.listener = none
  openers : ∀ k c listener, cs[k]? = some c → c.phase = .opened listener →
    ∃ e ∈ events, e.caller = k ∧ e.opens = true
  told : ∀ k c, cs[k]? = some c → events.countP (·.toldBy k) = c.phase.hasTold.toNat

theorem WasOpened.concat {events : List TunnelEvent} {listener : ListenerRef} {e : TunnelEvent}
    (opened : WasOpened events listener) : WasOpened (events ++ [e]) listener := by
  obtain ⟨e', mem, here⟩ := opened
  exact ⟨e', List.mem_append_left _ mem, here⟩

/-- Where a caller holds a listener the slot is empty. -/
theorem Balanced.free {calls : List TunnelCall} {cs : List TunnelCaller} {core : TunnelCore}
    {events : List TunnelEvent} (balanced : Balanced calls cs core events) {c : TunnelCaller}
    (mem : c ∈ cs) (holds : c.phase.holds = 1) : core.listener = none := by
  cases stored : core.listener with
  | none => rfl
  | some listener =>
    have share : c.phase.holds ≤ (cs.map (·.phase.holds)).sum :=
      List.le_sum_of_mem (List.mem_map_of_mem mem)
    have full : core.stored = 1 := by
      unfold TunnelCore.stored
      rw [stored]
      rfl
    have opens := balanced.opens
    have account := balanced.holds
    omega

/-- A caller takes a step in its phase and is answered out of what the callers share. -/
structure TunnelTurn (cs : List TunnelCaller) (core : TunnelCore) (k : Nat) (c c' : TunnelCaller)
    (step : TunnelStep) (answer : step.Answer) (core' : TunnelCore) : Prop where
  here : cs[k]? = some c
  moves : c.phase.Moves step answer c'.phase
  answered : core.Answers step answer core'

/-! ## What a turn does to each account -/

namespace TunnelTurn

variable {calls : List TunnelCall} {cs : List TunnelCaller} {core core' : TunnelCore}
  {events : List TunnelEvent} {k : Nat} {c c' : TunnelCaller} {step : TunnelStep}
  {answer : step.Answer} (turn : TunnelTurn cs core k c c' step answer core')
  (balanced : Balanced calls cs core events)

include turn

theorem mem : c ∈ cs := List.mem_of_getElem? turn.here

/-- Only the share of the caller changes. -/
theorem share (f : TunnelPhase → Nat) : ((cs.set k c').map fun c => f c.phase).sum + f c.phase =
    (cs.map fun c => f c.phase).sum + f c'.phase :=
  sum_map_set turn.here

/-- What holds of all callers goes on to if it holds of this one. -/
theorem forall_mem {P : TunnelCaller → Prop} (others : ∀ c ∈ cs, P c) (own : P c') :
    ∀ c ∈ cs.set k c', P c := by
  intro d mem
  rcases List.mem_or_eq_of_mem_set mem with old | rfl
  · exact others d old
  · exact own

include balanced

theorem dials : core'.unused +
    (events ++ [TunnelEvent.mk k step answer core core']).countP (·.dials) ≤ 1 := by
  have before := balanced.dials
  have used := turn.answered.dials
  rw [countP_concat]
  show core'.unused + (_ + (step.dials answer).toNat) ≤ 1
  omega

theorem opens : core'.unused + ((cs.set k c').map (·.phase.mayOpen)).sum +
    (events ++ [TunnelEvent.mk k step answer core core']).countP (·.opens) ≤ 1 := by
  have before := balanced.opens
  have used := turn.answered.dials
  have moved := turn.moves.mayOpen
  have share := turn.share TunnelPhase.mayOpen
  rw [countP_concat]
  show _ + _ + (_ + (step.opened? answer).isSome.toNat) ≤ 1
  omega

theorem holds : (events ++ [TunnelEvent.mk k step answer core core']).countP (·.opens) =
    core'.stored + ((cs.set k c').map (·.phase.holds)).sum +
      (events ++ [TunnelEvent.mk k step answer core core']).countP (·.closes) := by
  have before := balanced.holds
  have moved := turn.moves.holds turn.answered fun listener opened =>
    balanced.free turn.mem (by rw [opened]; rfl)
  have share := turn.share TunnelPhase.holds
  rw [countP_concat, countP_concat]
  show _ + (step.opened? answer).isSome.toNat = _ + _ + (_ + step.closed?.isSome.toNat)
  omega

/-- Until the tunnel is asked to stop no more may connect than may open a listener. From then on
nobody who looks goes on. -/
theorem connects : core'.unused + ((cs.set k c').map (·.phase.mayConnect)).sum +
    (events ++ [TunnelEvent.mk k step answer core core']).countP (·.connectsLate) ≤ 1 := by
  rw [countP_concat]
  show _ + _ + (_ + (step.connects && core.stopping).toNat) ≤ 1
  cases asked : core.stopping with
  | true =>
    have before := balanced.connects
    have used := turn.answered.dials
    have moved := turn.moves.mayConnect
    have share := turn.share TunnelPhase.mayConnect
    rw [turn.answered.goesOn asked, Bool.toNat_false] at moved
    rw [Bool.and_true]
    omega
  | false =>
    have opens := turn.opens balanced
    have fewer : ((cs.set k c').map (·.phase.mayConnect)).sum ≤
        ((cs.set k c').map (·.phase.mayOpen)).sum :=
      List.sum_le_sum fun _ _ => TunnelPhase.mayConnect_le
    rw [balanced.early asked, Bool.and_false, Bool.toNat_false]
    omega

theorem early (running : core'.stopping = false) :
    (events ++ [TunnelEvent.mk k step answer core core']).countP (·.connectsLate) = 0 := by
  have before : core.stopping = false := by
    rw [← Bool.not_eq_true]
    intro asked
    rw [turn.answered.core_eq, core.effect_stopping asked] at running
    cases running
  rw [countP_concat, balanced.early before]
  show 0 + (step.connects && core.stopping).toNat = 0
  rw [before, Bool.and_false]
  rfl

theorem held : ∀ c ∈ cs.set k c', ∀ listener, c.phase.listener? = some listener →
    WasOpened (events ++ [TunnelEvent.mk k step answer core core']) listener := by
  refine turn.forall_mem (fun c mem listener held => (balanced.held c mem listener held).concat)
    fun listener held => ?_
  rcases turn.moves.listener? turn.answered held with held | stored | opened
  · exact (balanced.held c turn.mem listener held).concat
  · exact (balanced.slot listener stored).concat
  · exact ⟨_, List.mem_append_right _ (List.mem_singleton_self _), opened⟩

theorem slot (listener : ListenerRef) (stored : core'.listener = some listener) :
    WasOpened (events ++ [TunnelEvent.mk k step answer core core']) listener := by
  rcases turn.moves.slot turn.answered stored with stored | held
  · exact (balanced.slot listener stored).concat
  · exact (balanced.held c turn.mem listener held).concat

theorem closed (e : TunnelEvent) (mem : e ∈ events ++ [TunnelEvent.mk k step answer core core'])
    (listener : ListenerRef) (closed : e.closed? = some listener) :
    WasOpened (events ++ [TunnelEvent.mk k step answer core core']) listener := by
  rcases List.mem_append.mp mem with old | new
  · exact (balanced.closed e old listener closed).concat
  · cases List.mem_singleton.mp new
    exact (balanced.held c turn.mem listener (turn.moves.closed? closed)).concat

theorem stopping : ∀ c ∈ cs.set k c', c.phase.isStopping = true → core'.stopping = true := by
  have kept (asked : core.stopping = true) : core'.stopping = true := by
    rw [turn.answered.core_eq]
    exact core.effect_stopping asked
  refine turn.forall_mem (fun c mem stopping => kept (balanced.stopping c mem stopping))
    fun stopping => ?_
  rcases turn.moves.isStopping turn.answered stopping with stopping | asked
  · exact kept (balanced.stopping c turn.mem stopping)
  · exact asked

theorem swept : ∀ c ∈ cs.set k c', c.phase.hasSwept = true → core'.listener = none := by
  have kept (c : TunnelCaller) (mem : c ∈ cs) (swept : c.phase.hasSwept = true) :
      core'.listener = none := by
    have asked := balanced.stopping c mem (TunnelPhase.isStopping_of_hasSwept swept)
    rw [turn.answered.core_eq]
    exact core.effect_listener asked (balanced.swept c mem swept)
  refine turn.forall_mem kept fun swept => ?_
  rcases turn.moves.hasSwept turn.answered swept with swept | empty
  · exact kept c turn.mem swept
  · exact empty

theorem openers (j : Nat) (d : TunnelCaller) (listener : ListenerRef)
    (there : (cs.set k c')[j]? = some d) (opened : d.phase = .opened listener) :
    ∃ e ∈ events ++ [TunnelEvent.mk k step answer core core'],
      e.caller = j ∧ e.opens = true := by
  rcases getElem?_set_cases turn.here there with ⟨rfl, rfl⟩ | ⟨-, old⟩
  · exact ⟨_, List.mem_append_right _ (List.mem_singleton_self _), rfl,
      Option.isSome_iff_exists.mpr ⟨listener, turn.moves.opened opened⟩⟩
  · obtain ⟨e, mem, own, opens⟩ := balanced.openers j d listener old opened
    exact ⟨e, List.mem_append_left _ mem, own, opens⟩

theorem told (j : Nat) (d : TunnelCaller) (there : (cs.set k c')[j]? = some d) :
    (events ++ [TunnelEvent.mk k step answer core core']).countP (·.toldBy j) =
      d.phase.hasTold.toNat := by
  rw [countP_concat]
  show _ + (decide (k = j) && step.tells).toNat = _
  rcases getElem?_set_cases turn.here there with ⟨rfl, rfl⟩ | ⟨other, old⟩
  · rw [balanced.told j c turn.here, decide_eq_true rfl, Bool.true_and]
    exact turn.moves.hasTold.symm
  · rw [balanced.told j d old, decide_eq_false other.symm]
    rfl

end TunnelTurn

/-! ## The accounts of a whole run -/

namespace Balanced

variable {calls : List TunnelCall} {cs : List TunnelCaller} {core core' : TunnelCore}
  {events : List TunnelEvent}

/-- Every step is a turn of its caller, and the accounts are balanced behind it. -/
theorem next (balanced : Balanced calls cs core events) {k : Nat} {c : TunnelCaller}
    {step : TunnelStep} {rest : step.Answer → TunnelProgram CallEnd} {answer : step.Answer}
    (here : cs[k]? = some c) (asks : c.rest = .ask step rest)
    (answered : core.Answers step answer core') :
    ∃ p', TunnelTurn cs core k c ⟨c.call, p', rest answer⟩ step answer core' ∧
      Balanced calls (cs.set k ⟨c.call, p', rest answer⟩) core'
        (events ++ [⟨k, step, answer, core, core'⟩]) := by
  have obeys := balanced.obeys c (List.mem_of_getElem? here)
  rw [asks] at obeys
  obtain ⟨p', moves, obeysRest⟩ := obeys answer
  have turn : TunnelTurn cs core k c ⟨c.call, p', rest answer⟩ step answer core' :=
    ⟨here, moves, answered⟩
  have same : (cs.set k ⟨c.call, p', rest answer⟩).map (·.call) = calls := by
    have there : (cs.map (·.call))[k]? = some c.call := by rw [List.getElem?_map, here]; rfl
    obtain ⟨bound, same⟩ := List.getElem?_eq_some_iff.mp there
    rw [List.map_set, ← balanced.calls, ← same]
    exact List.set_getElem_self bound
  exact ⟨p', turn, {
    calls := same
    obeys := turn.forall_mem balanced.obeys obeysRest
    dials := turn.dials balanced
    opens := turn.opens balanced
    holds := turn.holds balanced
    connects := turn.connects balanced
    early := turn.early balanced
    held := turn.held balanced
    slot := turn.slot balanced
    closed := turn.closed balanced
    stopping := turn.stopping balanced
    swept := turn.swept balanced
    openers := turn.openers balanced
    told := turn.told balanced }⟩

/-- Before anybody takes a step all accounts are empty. -/
theorem start {t : Tunnel} :
    Balanced calls (calls.map fun call => ⟨call, call.firstPhase, call.program t⟩) {} [] := by
  have each {P : TunnelCaller → Prop}
      (here : ∀ call, P ⟨call, call.firstPhase, call.program t⟩) :
      ∀ c ∈ calls.map fun call => TunnelCaller.mk call call.firstPhase (call.program t), P c :=
    List.forall_mem_map.mpr fun call _ => here call
  have nothing {f : TunnelPhase → Nat} (none : ∀ call : TunnelCall, f call.firstPhase = 0) :
      ((calls.map fun call => TunnelCaller.mk call call.firstPhase (call.program t)).map
        fun c => f c.phase).sum = 0 := by
    refine List.sum_eq_zero ?_
    exact List.forall_mem_map.mpr (each none)
  refine {
    calls := by simp [Function.comp_def]
    obeys := each fun call => call.obeys_program
    dials := by decide
    opens := ?opens
    holds := ?holds
    connects := ?connects
    early := fun _ => rfl
    held := each fun call listener held => ?held
    slot := fun _ stored => nomatch stored
    closed := fun _ mem => nomatch mem
    stopping := each fun call stopping => ?stopping
    swept := each fun call swept => ?swept
    openers := fun k c listener here opened => ?openers
    told := fun k c here => ?told }
  case opens =>
    rw [nothing (f := TunnelPhase.mayOpen) fun call => by cases call <;> rfl]
    decide
  case holds =>
    rw [nothing (f := TunnelPhase.holds) fun call => by cases call <;> rfl]
    rfl
  case connects =>
    rw [nothing (f := TunnelPhase.mayConnect) fun call => by cases call <;> rfl]
    decide
  case held => cases call <;> cases held
  case stopping => cases call <;> cases stopping
  case swept => cases call <;> cases swept
  case openers =>
    have closed := each (P := fun c => c.phase.listener? = none)
      (fun call => by cases call <;> rfl) c (List.mem_of_getElem? here)
    rw [opened] at closed
    cases closed
  case told =>
    have silent := each (P := fun c => c.phase.hasTold = false)
      (fun call => by cases call <;> rfl) c (List.mem_of_getElem? here)
    rw [silent]
    rfl

/-- The accounts are balanced in every interleaving, and whatever else holds at its beginning and
is kept by every turn of a caller holds then, too. -/
theorem along {t : Tunnel} {s : TunnelScene}
    (Inv : List TunnelCaller → TunnelCore → List TunnelEvent → Prop)
    (first : Inv (calls.map fun call => ⟨call, call.firstPhase, call.program t⟩) {} [])
    (kept : ∀ {cs core events k c c' step answer core'}, Balanced calls cs core events →
      TunnelTurn cs core k c c' step answer core' → Inv cs core events →
        Inv (cs.set k c') core' (events ++ [⟨k, step, answer, core, core'⟩]))
    (run : Interleaving (.ofCalls t calls) events s) :
    ∃ cs : List TunnelCaller, s.callers = cs.map (·.rest) ∧ Balanced calls cs s.core events ∧
      Inv cs s.core events := by
  induction run with
  | none => exact ⟨_, by simp [TunnelScene.ofCalls, Function.comp_def], start (t := t), first⟩
  | next _ turn answered ih =>
    obtain ⟨cs, callers, balanced, inv⟩ := ih
    rw [callers, List.getElem?_map, Option.map_eq_some_iff] at turn
    obtain ⟨c, here, asks⟩ := turn
    obtain ⟨p', turn, after⟩ := balanced.next here asks answered
    exact ⟨_, by rw [callers, List.map_set], after, kept balanced turn inv⟩

/-- The accounts are balanced in every interleaving. -/
theorem of_interleaving {t : Tunnel} {s : TunnelScene}
    (run : Interleaving (.ofCalls t calls) events s) :
    ∃ cs : List TunnelCaller, s.callers = cs.map (·.rest) ∧ Balanced calls cs s.core events := by
  obtain ⟨cs, callers, balanced, -⟩ :=
    along (fun _ _ _ => True) trivial (fun _ _ _ => trivial) run
  exact ⟨cs, callers, balanced⟩

end Balanced

/-! ## Callers that have returned -/

/-- Whatever may be answered has an answer. -/
theorem TunnelStep.answerable (step : TunnelStep) : Nonempty step.Answer := by
  cases step with
  | move _ | isAskedToStop | keep _ => exact ⟨false⟩
  | state => exact ⟨TunnelState.created⟩
  | askToStop => exact ⟨()⟩
  | take | poll => exact ⟨none⟩
  | world need =>
    cases need with
    | readKey _ | connect _ _ _ | listen _ _ | accept _ | close _ | dialLocal _ | splitLocal =>
      exact ⟨.error .wouldBlock⟩
    | forward _ | sleep _ | report _ | ready _ => exact ⟨()⟩

/-- Who holds a listener that it did not just open is about to close it, and nobody else is. -/
theorem TunnelCaller.holds_eq {c : TunnelCaller}
    (obeys : c.phase.Obeys c.rest fun _ p => c.call.Ends p)
    (settled : ∀ listener, c.phase ≠ .opened listener) :
    c.phase.holds = (TunnelScene.closes c.rest).toNat := by
  obtain ⟨call, p, rest⟩ := c
  dsimp only at obeys settled ⊢
  cases rest with
  | done result =>
    cases call with
    | start _ =>
      obtain ⟨_, rfl⟩ : ∃ result, p = .told result := obeys
      rfl
    | stop =>
      obtain rfl : p = .halted := obeys
      rfl
  | ask step rest =>
    obtain ⟨answer⟩ := step.answerable
    obtain ⟨p', moves, -⟩ := obeys answer
    have same : step.closed? = p.listener? := by
      cases held : p.listener? with
      | some listener => exact moves.closes held (settled listener)
      | none =>
        cases closed : step.closed? with
        | none => rfl
        | some listener => cases held.symm.trans (moves.closed? closed)
    exact congrArg (fun listener => listener.isSome.toNat) same.symm

namespace Balanced

variable {calls : List TunnelCall} {cs : List TunnelCaller} {core : TunnelCore}
  {events : List TunnelEvent}

/-- Every call has its caller. -/
theorem caller (balanced : Balanced calls cs core events) {k : Nat} {call : TunnelCall}
    (called : calls[k]? = some call) : ∃ c, cs[k]? = some c ∧ c.call = call := by
  rw [← balanced.calls, List.getElem?_map, Option.map_eq_some_iff] at called
  exact called

/-- A call that has returned is in a phase in which it ends. -/
theorem ends (balanced : Balanced calls cs core events) {k : Nat} {call : TunnelCall}
    {result : CallEnd} (called : calls[k]? = some call)
    (returned : (cs.map (·.rest))[k]? = some (.done result)) :
    ∃ c, cs[k]? = some c ∧ call.Ends c.phase := by
  obtain ⟨c, here, rfl⟩ := balanced.caller called
  rw [List.getElem?_map, here] at returned
  have ended : c.rest = .done result := Option.some.inj returned
  have obeys := balanced.obeys c (List.mem_of_getElem? here)
  rw [ended] at obeys
  exact ⟨c, here, obeys⟩

/-- A listener whose start has returned, and some stop too, is closed or about to be closed. -/
theorem settles (balanced : Balanced calls cs core events) {k j : Nat} {c c' : TunnelCaller}
    (starter : cs[k]? = some c) (told : c.phase.hasTold = true) (stopper : cs[j]? = some c')
    (halted : c'.phase = .halted) {e : TunnelEvent} (mem : e ∈ events) (own : e.caller = k)
    (opens : e.opens = true) :
    events.countP (·.closes) + (cs.map (·.rest)).countP TunnelScene.closes = 1 := by
  have one : events.countP (·.opens) = 1 := by
    have least : 0 < events.countP (·.opens) := List.countP_pos_iff.mpr ⟨e, mem, opens⟩
    have most := balanced.opens
    omega
  have empty : core.stored = 0 := by
    unfold TunnelCore.stored
    rw [balanced.swept c' (List.mem_of_getElem? stopper) (by rw [halted]; rfl)]
    rfl
  -- Whoever has just opened a listener is the caller of the only such event.
  have settled {c : TunnelCaller} (mem' : c ∈ cs) (listener : ListenerRef) :
      c.phase ≠ .opened listener := by
    intro opened
    obtain ⟨i, here⟩ := List.getElem?_of_mem mem'
    obtain ⟨e', mem', own', opens'⟩ := balanced.openers i c listener here opened
    cases eq_of_countP_le_one (Nat.le_of_eq one) mem mem' opens opens'
    cases own.symm.trans own'
    cases starter.symm.trans here
    rw [opened] at told
    cases told
  have held : (cs.map (·.phase.holds)).sum = (cs.map (·.rest)).countP TunnelScene.closes := by
    rw [List.countP_map]
    exact sum_map_eq_countP fun c mem =>
      TunnelCaller.holds_eq (balanced.obeys c mem) (settled mem)
  have account := balanced.holds
  omega

end Balanced

end VmDeploy
