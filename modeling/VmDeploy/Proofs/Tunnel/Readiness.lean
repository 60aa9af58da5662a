import VmDeploy.Proofs.Tunnel.Course
import VmDeploy.Proofs.Tunnel.Dialing
import VmDeploy.Proofs.Tunnel.Standing

/-!
# How a start goes until it tells whether the tunnel is up

One start makes a new tunnel dial, among any number of other starts and stops whose steps lie
between its own in any order. What it does is read off its own steps, to which the world and the
others may answer anything: it goes as `Tunnel.Rises` says until it tells its result. What that has
to do with the stops, and what becomes of the tunnel, follows from where the tunnel stands
(`Standing`).

A stop takes three steps, so that it may be called while the tunnel dials and come to move the state
when dialing is over. It is the move that counts (`StoppedDialing`): a tunnel that was moved to
`stopped` while it dialed stays stopped, whatever its start tells. Of the stops that come across the
end of dialing `TunnelRise` says two things more. One that asked the tunnel to stop while it dialed
keeps it from coming up, although it may find that the start has failed by itself and moved the
state first. One that asks when the listener is in the slot is too late: the start, which looked for
a stop for the last time before it put the listener there, says that the tunnel is up. If the state
was not moved on yet it is stopped all the same.
-/

set_option autoImplicit false

namespace VmDeploy

/-! ## The steps of one caller -/

/-- Any answer may be given. -/
def anyAnswer : Environment tunnelSteps Unit := fun _ _ _ _ => True

/-- The step of an event and its answer. -/
def TunnelEvent.moment (e : TunnelEvent) : Moment tunnelSteps Unit := ⟨(), e.step, e.answer⟩

/-- The steps of one caller. -/
def stepsOf (k : Nat) (events : List TunnelEvent) : List (Moment tunnelSteps Unit) :=
  events.filterMap fun e => if e.caller = k then some e.moment else none

/-- The deeds among the steps of one caller. -/
def deedsOf (k : Nat) (events : List TunnelEvent) : List TunnelDeed :=
  TunnelDeed.ofMoments (stepsOf k events)

section Steps

variable {t : Tunnel} {calls : List TunnelCall} {events : List TunnelEvent} {s : TunnelScene}
  {k : Nat}

theorem stepsOf_append {events' : List TunnelEvent} :
    stepsOf k (events ++ events') = stepsOf k events ++ stepsOf k events' :=
  List.filterMap_append

theorem stepsOf_singleton {e : TunnelEvent} :
    stepsOf k [e] = if e.caller = k then [e.moment] else [] := by
  unfold stepsOf
  split <;> simp_all

theorem mem_stepsOf {e : TunnelEvent} (mem : e ∈ events) (own : e.caller = k) :
    e.moment ∈ stepsOf k events :=
  List.mem_filterMap.mpr ⟨e, mem, if_pos own⟩

theorem stepsOf_eq_nil_iff : stepsOf k events = [] ↔ ∀ e ∈ events, e.caller ≠ k := by
  simp [stepsOf]

/-- A step of a caller is an event, with the steps before and after it on its sides. -/
theorem stepsOf_eq_append_cons {before after : List (Moment tunnelSteps Unit)}
    {m : Moment tunnelSteps Unit} (split : stepsOf k events = before ++ m :: after) :
    ∃ events₁ e events₂, events = events₁ ++ e :: events₂ ∧ e.caller = k ∧ e.moment = m ∧
      stepsOf k events₁ = before ∧ stepsOf k events₂ = after := by
  obtain ⟨events₁, rest, rfl, here, split⟩ := List.filterMap_eq_append_iff.mp split
  obtain ⟨others, e, events₂, rfl, none, own, later⟩ := List.filterMap_eq_cons_iff.mp split
  obtain ⟨mine, same⟩ := Option.ite_none_right_eq_some.mp own
  refine ⟨events₁ ++ others, e, events₂, (List.append_assoc ..).symm, mine,
    Option.some.inj same, ?_, later⟩
  have silent : stepsOf k others = [] := List.filterMap_eq_nil_iff.mpr none
  rw [stepsOf_append, silent, List.append_nil]
  exact here

/-- What a caller did and has left to do is what its call does. -/
theorem Interleaving.runs (run : Interleaving (.ofCalls t calls) events s) {call : TunnelCall}
    (called : calls[k]? = some call) : ∃ rest, s.callers[k]? = some rest ∧
      ∀ {ms : List (Moment tunnelSteps Unit)} {result : CallEnd},
        Program.Runs anyAnswer rest () ms result () →
          Program.Runs anyAnswer (call.program t) () (stepsOf k events ++ ms) result () := by
  induction run with
  | none =>
    refine ⟨call.program t, ?_, id⟩
    rw [TunnelScene.ofCalls, List.getElem?_map, called]
    rfl
  | @next s' events j step rest answer core _ turn _ ih =>
    obtain ⟨rest', here, goes⟩ := ih
    by_cases own : j = k
    · subst own
      cases turn.symm.trans here
      obtain ⟨bound, -⟩ := List.getElem?_eq_some_iff.mp here
      refine ⟨rest answer, List.getElem?_set_self bound, fun more => ?_⟩
      rw [stepsOf_append, stepsOf_singleton, if_pos rfl, List.append_assoc]
      exact goes (.ask trivial more)
    · refine ⟨rest', (List.getElem?_set_ne own).trans here, fun more => ?_⟩
      rw [stepsOf_append, stepsOf_singleton, if_neg own, List.append_nil]
      exact goes more

/-- A start that has returned has gone like a start to which anything may be answered. -/
theorem Interleaving.goes (run : Interleaving (.ofCalls t calls) events s) {patience : Nat}
    (called : calls[k]? = some (.start patience)) (returned : s.Returned k) :
    ∃ served, Tunnel.Goes anyAnswer t patience () (stepsOf k events) served () := by
  obtain ⟨rest, here, goes⟩ := run.runs called
  obtain ⟨result, done⟩ := returned
  cases done.symm.trans here
  have went := goes .done
  rw [List.append_nil] at went
  obtain ⟨served, -, went⟩ := Program.runs_map_iff.mp went
  exact ⟨served, Tunnel.start_of_runs went⟩

end Steps

/-! ## The start -/

/-- What a start tells, what it did before and does after that, and what becomes of the tunnel. -/
structure TunnelRise (t : Tunnel) (k : Nat) (r : Except TunnelError Unit)
    (before : List TunnelEvent) (told : TunnelEvent) (after : List TunnelEvent) (s : TunnelScene) :
    Prop where
  /-- It goes until then as a start goes that has this result. -/
  course : t.Rises (deedsOf k before) r
  /-- Who looks finds out whether a stop was called before. -/
  looks : ∀ pre e post stop, before ++ told :: after = pre ++ e :: post →
    e.looked? = some stop → (stop = true ↔ AskedToStop pre)
  /-- It is told once how the start went. -/
  once : (before ++ told :: after).countP (·.toldBy k) = 1
  /-- Until then no other error is told. -/
  quiet : ∀ d ∈ deedsOf k before, d.1.reports = false
  /-- A start that did not bring the tunnel up is over, and a listener is closed again. -/
  ended : r ≠ .ok () → (∀ e ∈ after, e.caller ≠ k) ∧ ∀ d ∈ deedsOf k before, ∀ listener,
    d.1.opened? d.2 = some listener → ∃ d' ∈ deedsOf k before, d'.1.closed? = some listener
  /-- A tunnel that was stopped while it dialed does not come up, and is stopped. -/
  stopped : StoppedDialing (before ++ told :: after) → r ≠ .ok () ∧ s.core.state = .stopped
  /-- One that was not has failed if it does not come up, and it is not said that it was
  stopped. -/
  unstopped : ¬StoppedDialing (before ++ told :: after) →
    r ≠ .error .stopped ∧ (r ≠ .ok () → s.core.state = .failed)
  /-- It is stopped only behind a stop that was called while it dialed, or before. -/
  behind : ∀ pre e post, before ++ told :: after = pre ++ e :: post → e.StopsDialing →
    ∃ e' ∈ pre, e'.step = .askToStop ∧ e'.before.IsEarly
  /-- A tunnel that was asked to stop while it dialed does not come up, even if the start fails
  before the stop comes to move the state. -/
  asked : (∃ e ∈ before ++ told :: after, e.step = .askToStop ∧ e.before.Dials) → r ≠ .ok ()
  /-- Where the listener is in the slot the tunnel comes up, even if it is stopped before its state
  is moved on. -/
  late : (∃ e ∈ before ++ told :: after, e.before.state = .dialing ∧ e.before.listener ≠ none) →
    r = .ok ()
  /-- Whoever moves the state on from `dialing` to `stopped` leaves the tunnel stopped, with a
  listener in the slot or without. -/
  final : ∀ e ∈ before ++ told :: after, e.step = .move .stopped → e.before.state = .dialing →
    s.core.state = .stopped

namespace Interleaving

variable {t : Tunnel} {calls : List TunnelCall} {events : List TunnelEvent} {s : TunnelScene}
  {k : Nat} (run : Interleaving (.ofCalls t calls) events s)

include run

/-- A start that made the tunnel dial goes as a tunnel rises, tells how that went, and is over if
the tunnel is not up. -/
theorem tells {patience : Nat} (called : calls[k]? = some (.start patience))
    (dialed : ∃ e ∈ events, e.caller = k ∧ e.dials = true) (returned : s.Returned k) :
    ∃ r before told after, events = before ++ told :: after ∧ told.caller = k ∧
      told.step = .world (.ready r) ∧ t.Rises (deedsOf k before) r ∧
        (r ≠ .ok () → ∀ e ∈ after, e.caller ≠ k) := by
  obtain ⟨served, goes⟩ := run.goes called returned
  generalize own : stepsOf k events = ms at goes
  cases goes with
  | @down opening moves _ _ _ e opens moved =>
    obtain ⟨before, told, after, rfl, mine, same, early, late⟩ := stepsOf_eq_append_cons own
    have step : told.step = .world (.ready (.error e)) := congrArg Moment.question same
    refine ⟨_, before, told, after, rfl, mine, step, ?_, fun _ => stepsOf_eq_nil_iff.mp late⟩
    obtain ⟨⟨state, refused⟩, undialed⟩ | rises := Tunnel.openUp_of_runs opens
    · -- Who is refused does not make the tunnel dial, nor move it.
      cases refused
      obtain ⟨e, mem, own', dials⟩ := dialed
      have here := mem_stepsOf mem own'
      rw [own, List.mem_append, List.mem_append, List.mem_singleton] at here
      obtain (here | here) | here := here
      · cases dials.symm.trans (undialed _ here)
      · obtain ⟨next, falls, -⟩ := moved _ here
        cases falls
      · have told : e.step = .world (.ready (.error (.invalidState state))) :=
          congrArg Moment.question here
        obtain ⟨_, step, _, _, _⟩ := e
        cases told
        cases dials
    · have silent : TunnelDeed.ofMoments moves = [] := by
        refine TunnelDeed.ofMoments_eq_nil fun m mem => ?_
        obtain ⟨next, -, moves⟩ := moved m mem
        rw [moves]
        rfl
      unfold deedsOf
      rw [early, TunnelDeed.ofMoments_append, silent, List.append_nil]
      exact rises
  | @up opening serving _ _ _ _ opens _ _ =>
    obtain ⟨before, told, after, rfl, mine, same, early, late⟩ := stepsOf_eq_append_cons own
    have step : told.step = .world (.ready (.ok ())) := congrArg Moment.question same
    refine ⟨_, before, told, after, rfl, mine, step, ?_, fun down => absurd rfl down⟩
    obtain ⟨⟨_, refused⟩, -⟩ | rises := Tunnel.openUp_of_runs opens
    · cases refused
    · unfold deedsOf
      rw [early]
      exact rises

/-- What a start told stands behind its phase, and the tunnel stands as it does then. -/
theorem stands_of_told {patience : Nat} (called : calls[k]? = some (.start patience))
    (returned : s.Returned k) {told : TunnelEvent} {r : Except TunnelError Unit} (mem : told ∈ events)
    (mine : told.caller = k) (step : told.step = .world (.ready r)) :
    events.countP (·.toldBy k) = 1 ∧
      ((TunnelPhase.told r).hasDialed = true → (TunnelPhase.told r).Stands s.core events) := by
  obtain ⟨cs, callers, balanced, standing⟩ := Standing.of_interleaving run
  obtain ⟨_, done⟩ := returned
  rw [callers] at done
  obtain ⟨c, here, r', phase⟩ := balanced.ends called done
  have once : events.countP (·.toldBy k) = 1 := by
    rw [balanced.told k c here, phase]
    rfl
  obtain ⟨e, mem', own, tells⟩ := standing.told k c r' here phase
  have same : e = told := by
    refine eq_of_countP_le_one (Nat.le_of_eq once) mem' mem ?_ ?_
    · rw [TunnelEvent.toldBy, own, TunnelStep.tells_of_told? tells, decide_eq_true rfl]
      rfl
    · rw [TunnelEvent.toldBy, mine, step, decide_eq_true rfl]
      rfl
  rw [same, TunnelEvent.told?, step] at tells
  obtain rfl : r = r' := Option.some.inj tells
  rw [← phase]
  exact ⟨once, standing.stands c (List.mem_of_getElem? here)⟩

/-- Who looks finds out whether a stop was called before. -/
theorem looks {pre : List TunnelEvent} {e : TunnelEvent} {post : List TunnelEvent} {stop : Bool}
    (split : events = pre ++ e :: post) (looked : e.looked? = some stop) :
    stop = true ↔ AskedToStop pre := by
  obtain ⟨s₀, earlier, before, answered⟩ := run.upTo split
  obtain ⟨_, -, -, standing⟩ := Standing.of_interleaving earlier
  rw [← standing.asks, ← before, ← answered.looked? looked]

/-- Who moves the state from `dialing` to `stopped` is the last to move it. -/
theorem stopped_of_move {e : TunnelEvent} (mem : e ∈ events) (step : e.step = .move .stopped)
    (dialing : e.before.state = .dialing) : s.core.state = .stopped := by
  obtain ⟨pre, post, split⟩ := List.append_of_mem mem
  obtain ⟨-, -, -, answered⟩ := run.upTo split
  have moved : e.after.state = .stopped := by
    rw [answered.core_eq, step]
    show e.before.state.move .stopped = .stopped
    rw [dialing]
    rfl
  exact (run.final pre e post split (.inl moved)).1.trans moved

/-- A tunnel is stopped while it dials behind one who asked for it, and not too late. -/
theorem asked_of_stopsDialing {pre : List TunnelEvent} {e : TunnelEvent} {post : List TunnelEvent}
    (split : events = pre ++ e :: post) (stops : e.StopsDialing) :
    ∃ e' ∈ pre, e'.step = .askToStop ∧ e'.before.IsEarly := by
  obtain ⟨_, -, -, standing⟩ := Standing.of_interleaving run
  obtain ⟨asked, -⟩ := standing.asked e (by simp [split]) stops
  obtain ⟨s₀, earlier, before, -⟩ := run.upTo split
  obtain ⟨_, -, -, standing⟩ := Standing.of_interleaving earlier
  rw [before] at asked
  obtain ⟨e', mem, asks⟩ := standing.asks.mp asked
  exact ⟨e', mem, asks, standing.early (before ▸ stops.2) e' mem⟩

/-- A tunnel that was not disturbed was not stopped while it dialed. -/
theorem not_stoppedDialing (undisturbed : TunnelPhase.Undisturbed events) :
    ¬StoppedDialing events := by
  rintro ⟨e, mem, stops⟩
  obtain ⟨pre, post, split⟩ := List.append_of_mem mem
  obtain ⟨e', mem', asks, early⟩ := run.asked_of_stopsDialing split stops
  exact undisturbed e' (by rw [split]; exact List.mem_append_left _ mem') asks early

end Interleaving

namespace Tunnel

variable {t : Tunnel} {calls : List TunnelCall} {events : List TunnelEvent} {s : TunnelScene}
  {k patience : Nat}

/-- A server that lets nobody in. -/
def refusingPeer : Program.Handler tunnelWorld Unit
  | .connect _ _ _, s => (.error .interrupted, s)
  | need, s => samplePeer need s

/-- A tunnel that dials at most so many times. -/
def tryingTunnel (tries : UInt32) : Tunnel where
  options := ⟨"jumpbox", 22, "vcap", "", "", 8080, 8080⟩
  policy := { maxTries := tries }

/-- What its start and a stop do in an order of turns. -/
def refusedRun (tries : UInt32) (turns : List Nat) : List TunnelEvent × TunnelScene :=
  (TunnelScene.ofCalls (tryingTunnel tries) [.start 1, .stop]).played refusingPeer turns

/-- The stop asks while the start sleeps, and moves the state when the start has found that out. -/
def refusedTurns : List Nat := [0, 0, 0, 1, 0, 1, 0, 0, 1]

end Tunnel

end VmDeploy
