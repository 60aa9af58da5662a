import Mathlib.Data.List.Chain
import VmDeploy.Proofs.Tunnel.Accounts

/-!
# Interleavings of the callers of a tunnel

Any number of callers start and stop one tunnel. In an `Interleaving` each step is taken by one of
them, whichever it is, and all answers of the world are reckoned with. What is left of the program
of each caller is kept, so that nothing is assumed of a caller but that it is a start or a stop.

What the callers ask of the world are steps of their own, so that the others may get in between
them and the steps of the tunnel itself. For a world and an order of turns there is an interleaving
that can be computed (`TunnelScene.played`).
-/

set_option autoImplicit false

namespace VmDeploy

/-! ## Calls, events and runs -/

/-- A call on a tunnel. A start serves for so many polls at most. -/
inductive TunnelCall where
  | start (patience : Nat)
  | stop

namespace TunnelCall

/-- What a call does. -/
def program (t : Tunnel) : TunnelCall → TunnelProgram CallEnd
  | .start patience => do return .started (← t.start patience)
  | .stop => do return .stopped (← Tunnel.stop.run)

/-- The phase in which a call begins. -/
def firstPhase : TunnelCall → TunnelPhase
  | .start _ => .fresh
  | .stop => .waiting

/-- The phases in which a call ends. -/
def Ends : TunnelCall → TunnelPhase → Prop
  | .start _, p => ∃ result, p = .told result
  | .stop, p => p = .halted

theorem obeys_program {t : Tunnel} (call : TunnelCall) :
    call.firstPhase.Obeys (call.program t) fun _ p => call.Ends p := by
  cases call with
  | start patience => exact TunnelPhase.Obeys.bind_iff.mpr (Tunnel.obeys_start patience)
  | stop => exact TunnelPhase.Obeys.bind_iff.mpr Tunnel.obeys_stop

end TunnelCall

/-- What is left to do for each caller, and what they share. -/
structure TunnelScene where
  callers : List (TunnelProgram CallEnd)
  core : TunnelCore := {}

namespace TunnelScene

/-- Callers that have not begun, around a tunnel that is new. -/
def ofCalls (t : Tunnel) (calls : List TunnelCall) : TunnelScene :=
  ⟨calls.map (TunnelCall.program t), {}⟩

/-- A call has returned. -/
def Returned (s : TunnelScene) (k : Nat) : Prop := ∃ result, s.callers[k]? = some (.done result)

/-- Whether a caller is about to close a listener. -/
def closes : TunnelProgram CallEnd → Bool
  | .ask step _ => step.closed?.isSome
  | .done _ => false

/-- Every caller has returned or is about to take a step of the tunnel itself, which reaches what
the callers share. What they ask of the world in between is done. -/
def BetweenSteps (s : TunnelScene) : Prop :=
  ∀ caller ∈ s.callers, ∀ need rest, caller ≠ .ask (.world need) rest

/-- Between the steps of the tunnel nobody is about to close a listener. -/
theorem BetweenSteps.countP_closes {s : TunnelScene} (between : s.BetweenSteps) :
    s.callers.countP closes = 0 := by
  refine List.countP_eq_zero.mpr fun caller mem closes => ?_
  cases caller with
  | done _ => cases closes
  | ask step rest =>
    cases step with
    | world need => exact between _ mem need rest rfl
    | _ => cases closes

end TunnelScene

/-- A step that was taken. -/
structure TunnelEvent where
  caller : Nat
  step : TunnelStep
  answer : step.Answer
  before : TunnelCore
  after : TunnelCore

namespace TunnelEvent

/-- The tunnel left the state in which it was made, to dial. -/
def dials (e : TunnelEvent) : Bool := e.step.dials e.answer

/-- The listener that was opened, if one was. -/
def opened? (e : TunnelEvent) : Option ListenerRef := e.step.opened? e.answer

/-- A listener was opened. -/
def opens (e : TunnelEvent) : Bool := e.opened?.isSome

/-- The listener that was closed, if one was. -/
def closed? (e : TunnelEvent) : Option ListenerRef := e.step.closed?

/-- A listener was closed. -/
def closes (e : TunnelEvent) : Bool := e.closed?.isSome

/-- The remote server was dialed although the tunnel had been asked to stop. -/
def connectsLate (e : TunnelEvent) : Bool := e.step.connects && e.before.stopping

/-- A caller told how the start went. -/
def toldBy (k : Nat) (e : TunnelEvent) : Bool := e.caller = k && e.step.tells

end TunnelEvent

/-- Steps of callers in any order, one at a time. -/
inductive Interleaving (s : TunnelScene) : List TunnelEvent → TunnelScene → Prop
  | none : Interleaving s [] s
  | next {s' : TunnelScene} {events : List TunnelEvent} {k : Nat} {step : TunnelStep}
      {rest : step.Answer → TunnelProgram CallEnd} {answer : step.Answer} {core : TunnelCore}
      (run : Interleaving s events s') (turn : s'.callers[k]? = some (.ask step rest))
      (answered : s'.core.Answers step answer core) :
      Interleaving s (events ++ [⟨k, step, answer, s'.core, core⟩])
        ⟨s'.callers.set k (rest answer), core⟩

namespace Interleaving

variable {t : Tunnel} {calls : List TunnelCall} {s s' : TunnelScene} {events : List TunnelEvent}

/-- The state moves along its edges. -/
theorem path (run : Interleaving s events s') :
    List.IsChain (fun a b => b = a ∨ a.canMoveTo b = true)
        (s.core.state :: events.map (·.after.state)) ∧
      (s.core.state :: events.map (·.after.state)).getLast? = some s'.core.state := by
  induction run with
  | none => exact ⟨.singleton _, rfl⟩
  | next _ _ answered ih =>
    obtain ⟨chain, last⟩ := ih
    rw [List.map_append, List.map_singleton, ← List.cons_append]
    refine ⟨List.isChain_append.mpr ⟨chain, .singleton _, fun a mem b mem' => ?_⟩,
      List.getLast?_concat⟩
    rw [last] at mem
    cases mem
    cases mem'
    exact answered.edge

/-- A stopped or failed tunnel stays what it is. -/
theorem final (run : Interleaving s events s') (before : List TunnelEvent) (e : TunnelEvent)
    (after : List TunnelEvent) (split : events = before ++ e :: after)
    (here : e.after.state = .stopped ∨ e.after.state = .failed) :
    s'.core.state = e.after.state ∧ ∀ e' ∈ after, e'.after.state = e.after.state := by
  induction run generalizing after with
  | none => simp at split
  | next _ _ answered ih =>
    rcases List.eq_nil_or_concat' after with rfl | ⟨after, last, rfl⟩
    · obtain ⟨-, same⟩ := List.append_inj' split rfl
      cases same
      exact ⟨rfl, fun _ mem => nomatch mem⟩
    · rw [← List.cons_append, ← List.append_assoc] at split
      obtain ⟨earlier, same⟩ := List.append_inj' split rfl
      obtain ⟨now, since⟩ := ih after earlier
      rw [← now] at here
      have stays := (congrArg TunnelCore.state answered.core_eq).trans
        (TunnelCore.effect_final here)
      refine ⟨stays.trans now, fun e' mem => ?_⟩
      rcases List.mem_append.mp mem with old | new
      · exact since e' old
      · cases List.mem_singleton.mp new
        cases same
        exact stays.trans now

/-- What happened before a step is an interleaving, too, and the step was taken where it led. -/
theorem upTo (run : Interleaving s events s') {before : List TunnelEvent} {e : TunnelEvent}
    {after : List TunnelEvent} (split : events = before ++ e :: after) :
    ∃ s₀, Interleaving s before s₀ ∧ e.before = s₀.core ∧
      e.before.Answers e.step e.answer e.after := by
  induction run generalizing after with
  | none => simp at split
  | next run _ answered ih =>
    rcases List.eq_nil_or_concat' after with rfl | ⟨after, last, rfl⟩
    · obtain ⟨rfl, same⟩ := List.append_inj' split rfl
      cases same
      exact ⟨_, run, rfl, answered⟩
    · rw [← List.cons_append, ← List.append_assoc] at split
      exact ih (List.append_inj' split rfl).1

end Interleaving

/-! ## Turns -/

namespace TunnelScene

/-- The turn of a caller in a world. It passes if the caller has returned. -/
def turn (world : Program.Handler tunnelWorld Unit) :
    List TunnelEvent × TunnelScene → Nat → List TunnelEvent × TunnelScene
  | (events, s), k =>
    match s.callers[k]? with
    | some (.ask step rest) =>
      let reply := TunnelCore.handler world step (s.core, ())
      (events ++ [⟨k, step, reply.1, s.core, reply.2.1⟩],
        ⟨s.callers.set k (rest reply.1), reply.2.1⟩)
    | _ => (events, s)

/-- What happens if the callers take their turns in an order. -/
def played (s : TunnelScene) (world : Program.Handler tunnelWorld Unit) (turns : List Nat) :
    List TunnelEvent × TunnelScene :=
  turns.foldl (turn world) ([], s)

/-- Turns in any order are an interleaving. -/
theorem interleaving_played {s : TunnelScene} {world : Program.Handler tunnelWorld Unit}
    (turns : List Nat) : Interleaving s (s.played world turns).1 (s.played world turns).2 := by
  refine List.foldlRecOn turns (turn world) (motive := fun sofar => Interleaving s sofar.1 sofar.2)
    .none fun ⟨events, s'⟩ run k _ => ?_
  cases here : s'.callers[k]? with
  | none => simpa only [turn, here] using run
  | some caller =>
    cases caller with
    | done result => simpa only [turn, here] using run
    | ask step rest =>
      simp only [turn, here]
      exact run.next here ⟨world, rfl⟩

end TunnelScene

end VmDeploy
