import VmDeploy.Proofs.Tunnel.Dialing
import VmDeploy.Proofs.Tunnel.Serving

/-!
# What a start does when the tunnel is up

A start of a new tunnel tells once whether the tunnel is up, and if it is, serves as
`TunnelService` says: in rounds, whatever its polls yield and however the local server answers,
and until somebody stops it. Where the tunnel stands before that is a matter of the phases of the
start (`StandsIn`), which every step keeps, wherever the tunnel is stopped in between.
-/

set_option autoImplicit false

namespace VmDeploy

/-! ## Where the tunnel stands until it is up -/

/-- Where a new tunnel stands in the phases of its start that lead up. -/
def TunnelStops.StandsIn (s : TunnelStops) : TunnelPhase → Prop
  | .fresh => s = {}
  | .dialing _ | .connected | .opened _ => s.Stands .dialing
  | .kept => ∃ listener, s.Stands (.holding .dialing listener)
  | .risen => ∃ listener, s.Stands (.holding .listening listener)
  | _ => True

namespace TunnelStops

variable {s s' : TunnelStops} {step : TunnelStep} {answer : step.Answer} {p p' : TunnelPhase}

/-- A listener that was kept is in the slot, unless the tunnel was stopped since. -/
theorem Stands.keep {listener : ListenerRef} (stands : s.Stands .dialing)
    (taken : Interrupted s (.keep listener) true s') :
    s'.Stands (.holding .dialing listener) := by
  obtain rfl | halted := stands
  · obtain ⟨_, answered, stops⟩ := taken
    cases answered.core_eq
    exact stops.stands rfl
  · exact .inr (halted.next taken)

/-- Every step of the start brings the tunnel to where it stands in the next phase. -/
theorem StandsIn.next (stands : s.StandsIn p) (moves : TunnelPhase.Moves p step answer p')
    (taken : Interrupted s step answer s') : s'.StandsIn p' := by
  cases moves with
  | dial =>
    cases (show s = {} from stands)
    obtain ⟨_, answered, stops⟩ := taken
    cases answered.core_eq
    exact stops.stands rfl
  | readKey | connect | missConnect | rest | goOn | listen => exact stands.deed taken rfl rfl
  | keep => exact ⟨_, stands.keep taken⟩
  | rise =>
    obtain ⟨listener, stands⟩ := stands
    exact ⟨listener, stands.next taken rfl rfl⟩
  | _ => trivial

end TunnelStops

/-! ## What it does then -/

namespace Tunnel

open TunnelStops (Interrupted)

variable {t : Tunnel} {s s' : TunnelStops} {ms : List TunnelMoment} {patience : Nat}
  {run : TunnelRun} {rounds : List ServeRound}

/-- A tunnel that came up has a listener. -/
theorem stands_of_openUp (went : Program.Runs Interrupted t.openUp.run {} ms (.ok ()) s') :
    ∃ listener, s'.Stands (.holding .listening listener) := by
  obtain ⟨_, rfl, stands⟩ := obeys_openUp.along (fun p _ s => s.StandsIn p)
    (fun moves taken stands => stands.next moves taken) [] went rfl
  exact stands

/-- A tunnel is marked as stopped when it serves no more. -/
theorem ending_of_runs {listener : ListenerRef} (served : TunnelRun)
    (went : Program.Runs Interrupted (do
      if served = .ended then moveTo .stopped
      return served) s ms run s')
    (forwards : Forwards listener s) (halts : served = .ended → s.Halted) :
    run = served ∧ (∀ m ∈ ms, m.question.isDeed = false) ∧ Forwards listener s' := by
  cases served with
  | ended =>
    obtain ⟨_, s₁, _, _, rfl, moving, ending⟩ := Program.runs_bind_iff.mp went
    obtain ⟨moved, rfl, moves⟩ := moveTo_of_runs moving
    obtain ⟨rfl, rfl, rfl⟩ := Program.runs_pure_iff.mp ending
    exact ⟨rfl, List.forall_mem_singleton.mpr rfl, .inr ((halts rfl).next moves)⟩
  | serving =>
    obtain ⟨rfl, rfl, rfl⟩ := Program.runs_pure_iff.mp went
    exact ⟨rfl, List.forall_mem_nil _, forwards⟩

/-- A tunnel that is up forwards until it is stopped. -/
theorem serveUp_of_runs {listener : ListenerRef}
    (went : Program.Runs Interrupted (t.serveUp patience) s ms run s')
    (stands : s.Stands (.holding .listening listener)) :
    (∃ rounds, t.Serves patience rounds ms run) ∧ Forwards listener s' := by
  obtain ⟨mayForward, s₁, rest, rfl, moves, serving⟩ := Program.runs_question_bind_iff.mp went
  have forwards : Forwards listener s₁ := stands.next moves rfl rfl
  cases mayForward with
  | false =>
    have halted : s.Halted := by
      obtain rfl | halted := stands
      · obtain ⟨_, answered, -⟩ := moves
        cases answered.move
      · exact halted
    obtain ⟨rfl, silent, last⟩ := ending_of_runs .ended serving forwards fun _ => halted.next moves
    refine ⟨⟨[], ?_⟩, last⟩
    have none : ∀ m ∈ (⟨s, .move .forwarding, false⟩ :: rest : List TunnelMoment),
        m.question.isDeed = false := List.forall_mem_cons.mpr ⟨rfl, silent⟩
    exact {
      deeds := ⟨[], List.mem_cons_self, TunnelDeed.ofMoments_eq_nil none⟩
      states := fun m mem deed => nomatch (none m mem).symm.trans deed
      serving := nofun
      ended := fun _ => ⟨_, List.mem_cons_self, halted.stopped⟩ }
  | true =>
    obtain ⟨served, s₂, ms₁, ms₂, rfl, looping, ending⟩ := Program.runs_bind_iff.mp serving
    obtain ⟨⟨rounds, serves⟩, forwards, halts⟩ := acceptLoop_of_runs looping forwards
    obtain ⟨rfl, silent, last⟩ := ending_of_runs served ending forwards halts
    refine ⟨⟨rounds, ?_⟩, last⟩
    exact @Serves.around t ms₁ patience _ rounds [_] ms₂ serves
      (List.forall_mem_cons.mpr ⟨rfl, silent⟩)

/-- What is told by a start is told once. -/
theorem account_of_runs (went : Program.Runs Interrupted (t.start patience) {} ms run s') :
    ms.countP (·.question.tells) = 1 ∧
      ∀ s stop, ⟨s, .isAskedToStop, stop⟩ ∈ ms → (stop = true ↔ s.found ≠ []) := by
  obtain ⟨_, ⟨_, rfl⟩, account⟩ :=
    (obeys_start patience).along StartAccount StartAccount.next [] went .fresh
  exact ⟨account.told, account.looks⟩

/-- Nothing else is told beside what is told once. -/
theorem untold_of_countP {m : TunnelMoment} {before after : List TunnelMoment}
    (once : (before ++ m :: after).countP (·.question.tells) = 1) (told : m.question.tells = true) :
    ∀ m' ∈ before ++ after, m'.question.tells = false := by
  rw [List.countP_append, List.countP_cons, if_pos told] at once
  have none : (before ++ after).countP (·.question.tells) = 0 := by
    rw [List.countP_append]
    omega
  exact fun m' mem => Bool.eq_false_iff.mpr (List.countP_eq_zero.mp none m' mem)

end Tunnel

/-- What a tunnel that is up does when that was told, in rounds, and what it leaves. -/
structure TunnelService (t : Tunnel) (patience : Nat) (rounds : List ServeRound)
    (after : List TunnelMoment) (run : TunnelRun) (s' : TunnelStops) : Prop extends
    t.Serves patience rounds after run where
  /-- Each round deals with what one poll yielded. -/
  polls : (TunnelDeed.ofMoments after).filterMap TunnelDeed.polled? = rounds.map (·.polled)
  /-- What others get to know is what they get to know of each round, in that order. -/
  notes : (TunnelDeed.ofMoments after).filterMap TunnelDeed.noted? = rounds.flatMap (·.notes)
  /-- Who looks finds out whether a stop was called. -/
  looks : ∀ s stop, ⟨s, .isAskedToStop, stop⟩ ∈ after → (stop = true ↔ s.found ≠ [])
  /-- A tunnel that was not stopped forwards. -/
  standing : s'.found = [] → s'.core.state = .forwarding

namespace Tunnel

open TunnelStops (Interrupted)

variable {t : Tunnel} {s' : TunnelStops} {ms : List TunnelMoment} {patience : Nat}
  {run : TunnelRun}

/-- How a tunnel serves that was told to be up, whatever its polls yield, and that it does so until
it is stopped. A stop is over before the next step of the start: what is said of the rounds and of
the state ends where the first stop is called, whose own steps change nothing of it. -/
theorem service_of_runs (went : Program.Runs Interrupted (t.start patience) {} ms run s')
    (up : ∃ s, ⟨s, .world (.ready (.ok ())), ()⟩ ∈ ms) :
    ∃ before s₀ after rounds, ms = before ++ ⟨s₀, .world (.ready (.ok ())), ()⟩ :: after ∧
      TunnelService t patience rounds after run s' := by
  obtain ⟨once, looks⟩ := account_of_runs went
  cases start_of_runs went with
  | down _ _ =>
    obtain ⟨s, mem⟩ := up
    rcases List.mem_append.mp mem with mem | mem
    · cases untold_of_countP once rfl _ (List.mem_append_left _ mem)
    · cases List.mem_singleton.mp mem
  | @up before after s₀ _ _ _ opens tells serving =>
    obtain ⟨listener, stands⟩ := stands_of_openUp opens
    obtain ⟨⟨rounds, serves⟩, forwards⟩ := serveUp_of_runs serving (stands.deed tells rfl rfl)
    refine ⟨before, s₀, after, rounds, rfl, ?_⟩
    exact {
      serves with
      polls := serves.polls
      notes := serves.notes
      looks := fun s stop mem =>
        looks s stop (List.mem_append_right _ (List.mem_cons_of_mem _ mem))
      standing := forwards.state }

/-- A world that answers always alike when it is dialed, polled and dialed locally. -/
def evenWorld (dialed : Except StreamError Unit)
    (polled : Except StreamError (Option ConnectionRef)) (dialedLocal : Except StreamError Unit) :
    Program.Handler tunnelWorld Unit
  | .readKey _, s => (.error .wouldBlock, s)
  | .connect _ _ _, s => (dialed, s)
  | .listen _ _, s => (.ok ⟨0⟩, s)
  | .accept _, s => (polled, s)
  | .close _, s => (.ok (), s)
  | .dialLocal _, s => (dialedLocal, s)
  | .splitLocal, s => (.ok (), s)
  | .forward _, s | .sleep _, s | .report _, s | .ready _, s => ((), s)

/-- A tunnel that dials three times at most. -/
def patientTunnel : Tunnel where
  options := ⟨"jumpbox", 22, "vcap", "", "", 8080, 8080⟩
  policy := { maxTries := 3 }

/-- Connections arrive, nobody can dial the local server, and the tunnel is stopped behind the
first poll. -/
def servingHandler : Program.Handler tunnelSteps TunnelStops :=
  TunnelStops.handler (evenWorld (.ok ()) (.ok (some ⟨7⟩)) (.error .interrupted))
    fun | .poll => true | _ => false

theorem service_of_runs_sample :
    ∃ before s₀ after rounds, (patientTunnel.start 4).trace servingHandler {} =
        before ++ ⟨s₀, .world (.ready (.ok ())), ()⟩ :: after ∧
      TunnelService patientTunnel 4 rounds after .ended
        ((patientTunnel.start 4).run servingHandler {}).2 := by
  have ended : ((patientTunnel.start 4).run servingHandler {}).1 = .ended := by decide +kernel
  rw [← ended]
  refine service_of_runs (Program.Runs.of_run _ TunnelStops.interrupted_handler _ _) ?_
  refine ⟨⟨.holding .listening ⟨0⟩, []⟩, List.mem_of_getElem? (i := 5) ?_⟩
  with_unfolding_all rfl

end Tunnel

end VmDeploy
