import VmDeploy.Proofs.Tunnel.Balance

/-!
# What the calls on a tunnel come to

However starts and stops of one tunnel interleave, and whatever the world answers, they come to a
`TunnelCourse`: at most one start dials and at most one listener is opened; it is closed at most
once, and is closed when its start and some stop are over; the state moves only along its edges;
every start tells its result once; and a tunnel that was asked to stop dials at most once more.

A stop that has taken the listener out of the slot goes on to close it, and until it does another
stop that came later may be over. The course says at every moment who that is; between two steps of
the tunnel itself there is nobody (`TunnelScene.BetweenSteps`).
-/

set_option autoImplicit false

namespace VmDeploy

/-- What the calls on a tunnel come to together. -/
structure TunnelCourse (calls : List TunnelCall) (events : List TunnelEvent) (s : TunnelScene) :
    Prop where
  /-- At most one start makes the tunnel dial. -/
  dials : events.countP (·.dials) ≤ 1
  /-- At most one listener is opened. -/
  opens : events.countP (·.opens) ≤ 1
  /-- Something is closed at most once, and it is the listener that was opened. -/
  closes : events.countP (·.closes) ≤ 1
  closed : ∀ e ∈ events, ∀ listener, e.closed? = some listener → WasOpened events listener
  /-- When the start that opened the listener and some stop have returned, the listener is closed,
  or there is just one caller who is about to close it. -/
  settles : ∀ k patience j, calls[k]? = some (.start patience) → s.Returned k →
    (∃ e ∈ events, e.caller = k ∧ e.opens = true) → calls[j]? = some .stop → s.Returned j →
      events.countP (·.closes) + s.callers.countP TunnelScene.closes = 1
  /-- So between the steps of the tunnel it is closed then. -/
  settled : ∀ k patience j, calls[k]? = some (.start patience) → s.Returned k →
    (∃ e ∈ events, e.caller = k ∧ e.opens = true) → calls[j]? = some .stop → s.Returned j →
      s.BetweenSteps → events.countP (·.closes) = 1
  /-- The states of the tunnel, each of which is the one before it or may follow it. -/
  path : List.IsChain (fun a b => b = a ∨ a.canMoveTo b = true)
    (.created :: events.map (·.after.state))
  /-- A stopped or failed tunnel stays what it is. -/
  final : ∀ before e after, events = before ++ e :: after →
    e.after.state = .stopped ∨ e.after.state = .failed →
      s.core.state = e.after.state ∧ ∀ e' ∈ after, e'.after.state = e.after.state
  /-- A start tells how it went at most once, and has told it when it has returned. -/
  told : ∀ k patience, calls[k]? = some (.start patience) → events.countP (·.toldBy k) ≤ 1 ∧
    (s.Returned k → events.countP (·.toldBy k) = 1)
  /-- A tunnel that was asked to stop dials at most once more. -/
  connects : events.countP (·.connectsLate) ≤ 1

namespace Tunnel

/-- The calls on a tunnel come out even, however they interleave. -/
theorem course {t : Tunnel} {calls : List TunnelCall} {events : List TunnelEvent}
    {s : TunnelScene} (run : Interleaving (.ofCalls t calls) events s) :
    TunnelCourse calls events s := by
  obtain ⟨cs, callers, balanced⟩ := Balanced.of_interleaving run
  -- A call that has returned is in its last phase, and in those phases nobody but a stop that is
  -- about to close the listener holds it.
  have settles (k : Nat) (patience j : Nat) (started : calls[k]? = some (.start patience))
      (startOver : s.Returned k) (opened : ∃ e ∈ events, e.caller = k ∧ e.opens = true)
      (stopped : calls[j]? = some .stop) (stopOver : s.Returned j) :
      events.countP (·.closes) + s.callers.countP TunnelScene.closes = 1 := by
    obtain ⟨_, startOver⟩ := startOver
    obtain ⟨_, stopOver⟩ := stopOver
    obtain ⟨e, mem, own, opens⟩ := opened
    rw [callers] at startOver stopOver ⊢
    obtain ⟨c, starter, _, told⟩ := balanced.ends started startOver
    obtain ⟨c', stopper, halted⟩ := balanced.ends stopped stopOver
    exact balanced.settles starter (by rw [told]; rfl) stopper halted mem own opens
  refine {
    dials := ?dials
    opens := ?opens
    closes := ?closes
    closed := balanced.closed
    settles := settles
    settled := ?settled
    path := run.path.1
    final := run.final
    told := ?told
    connects := ?connects }
  case dials => exact (Nat.le_add_left _ _).trans balanced.dials
  case opens => exact (Nat.le_add_left _ _).trans balanced.opens
  case connects => exact (Nat.le_add_left _ _).trans balanced.connects
  case closes =>
    -- Whatever is closed was opened: the account of listeners has no other side.
    have := balanced.opens
    have := balanced.holds
    omega
  case settled =>
    -- Closing is no step of the tunnel itself, so that between those steps nobody is about to.
    intro k patience j started startOver opened stopped stopOver between
    have count := settles k patience j started startOver opened stopped stopOver
    rwa [between.countP_closes] at count
  case told =>
    -- How often a start has told is read off its phase, and it ends in the one behind telling.
    intro k patience started
    obtain ⟨c, here, -⟩ := balanced.caller started
    refine ⟨(balanced.told k c here).trans_le (Bool.toNat_le _), fun ⟨_, ended⟩ => ?_⟩
    rw [callers] at ended
    obtain ⟨c', here', _, told⟩ := balanced.ends started ended
    rw [balanced.told k c' here', told]
    rfl

/-- A server that lets everybody in, listens and closes. -/
def samplePeer : Program.Handler tunnelWorld Unit
  | .readKey _, s => (.error .wouldBlock, s)
  | .connect _ _ _, s => (.ok (), s)
  | .listen _ _, s => (.ok ⟨0⟩, s)
  | .accept _, s => (.ok none, s)
  | .close _, s => (.ok (), s)
  | .dialLocal _, s | .splitLocal, s => (.ok (), s)
  | .forward _, s | .sleep _, s | .report _, s | .ready _, s => ((), s)

/-- Two starts and two stops. -/
def sampleCalls : List TunnelCall := [.start 2, .stop, .stop, .start 1]

/-- What they do in an order of turns. -/
def sampleRun (turns : List Nat) : List TunnelEvent × TunnelScene :=
  (TunnelScene.ofCalls { options := ⟨"jumpbox", 22, "vcap", "", "", 8080, 8080⟩ }
    sampleCalls).played samplePeer turns

/-- One start serves, the other is refused. One stop takes the listener, and the other is over
before it is closed. -/
def sampleTurns : List Nat := [0, 0, 0, 3, 0, 0, 0, 0, 3, 3, 1, 1, 1, 2, 2, 2, 0, 0]

/-- The first stop closes the listener at last, once. -/
theorem course_sample :
    (sampleRun sampleTurns).1.countP (·.closes) = 0 ∧
      (sampleRun sampleTurns).2.callers.countP TunnelScene.closes = 1 ∧
      TunnelCourse sampleCalls (sampleRun sampleTurns).1 (sampleRun sampleTurns).2 ∧
      (sampleRun (sampleTurns ++ [1])).1.countP (·.closes) = 1 := by
  have ended : (sampleRun (sampleTurns ++ [1])).2.callers = [.done (.started .ended),
      .done (.stopped (.ok ())), .done (.stopped (.ok ())), .done (.started .ended)] := by
    with_unfolding_all rfl
  have returned {k : Nat} (here : k < 4) : (sampleRun (sampleTurns ++ [1])).2.Returned k := by
    unfold TunnelScene.Returned
    rw [ended]
    match k, here with
    | 0, _ | 1, _ | 2, _ | 3, _ => exact ⟨_, rfl⟩
  refine ⟨by decide +kernel, by decide +kernel, course (TunnelScene.interleaving_played _), ?_⟩
  refine (course (TunnelScene.interleaving_played _)).settled 0 2 2 rfl (returned (by decide))
    (by decide +kernel) rfl (returned (by decide)) fun caller mem need rest here => ?_
  change caller ∈ (sampleRun (sampleTurns ++ [1])).2.callers at mem
  rw [ended] at mem
  simp [here] at mem

end Tunnel

end VmDeploy
