import VmDeploy.Proofs.Tunnel.Stops

/-!
# How a tunnel serves

A round of the accept loop is a look whether to go on, a poll, and what is done with what the poll
yielded (`ServeRound`). `acceptLoop_of_runs` says that the loop does nothing but rounds, whatever
the polls yield and however the local server answers, and that only a stop ends it: the last round
is followed by a look or a poll that finds the tunnel stopped. The copying of a connection that was
handed over goes on by itself and is not told here.
-/

set_option autoImplicit false

namespace VmDeploy

/-! ## Rounds -/

/-- A round of serving. -/
inductive ServeRound where
  /-- A connection arrived and was handed over to be copied. -/
  | forwarded (connection : ConnectionRef)
  /-- A connection arrived, and the local server could not be dialed. -/
  | undialed (connection : ConnectionRef) (e : StreamError)
  /-- A connection arrived, and the one to the local server could not be used both ways. -/
  | unsplit (connection : ConnectionRef) (e : StreamError)
  /-- Nothing arrived. -/
  | idle
  /-- Nothing could arrive without waiting. -/
  | blocked
  /-- Accepting failed otherwise. -/
  | failed (e : StreamError) (other : e ≠ .wouldBlock)

namespace ServeRound

variable (t : Tunnel)

/-- What the poll yielded. -/
def polled : ServeRound → Except StreamError (Option ConnectionRef)
  | .forwarded connection | .undialed connection _ | .unsplit connection _ => .ok (some connection)
  | .idle => .ok none
  | .blocked => .error .wouldBlock
  | .failed e _ => .error e

/-- What others get to know of it: a connection to be copied, or an error. -/
def notes : ServeRound → List TunnelNeed
  | .forwarded connection => [.forward connection]
  | .undialed _ e | .unsplit _ e => [.report (.dialLocal e)]
  | .idle | .blocked => []
  | .failed e _ => [.report (.accept e)]

/-- What is done with what the poll yielded. -/
def reaction : ServeRound → List TunnelDeed
  | .forwarded connection =>
    [.world (.dialLocal t.options.localPort) (.ok ()), .world .splitLocal (.ok ()),
      .world (.forward connection) ()]
  | .undialed _ e =>
    [.world (.dialLocal t.options.localPort) (.error e), .world (.report (.dialLocal e)) ()]
  | .unsplit _ e =>
    [.world (.dialLocal t.options.localPort) (.ok ()), .world .splitLocal (.error e),
      .world (.report (.dialLocal e)) ()]
  | .idle | .blocked => [.world (.sleep Tunnel.pollInterval) ()]
  | .failed e _ => [.world (.report (.accept e)) (), .world (.sleep Tunnel.pollInterval) ()]

/-- What is done in a round. -/
def deeds (round : ServeRound) : List TunnelDeed :=
  .look false :: .poll (some round.polled) :: round.reaction t

end ServeRound

namespace TunnelDeed

/-- What a poll yielded, if there was a listener to be polled. -/
def polled? : TunnelDeed → Option (Except StreamError (Option ConnectionRef))
  | ⟨.poll, polled⟩ => polled
  | _ => none

/-- A connection that is handed over, or an error that is told. -/
def noted? : TunnelDeed → Option TunnelNeed
  | ⟨.world (.forward connection), _⟩ => some (.forward connection)
  | ⟨.world (.report e), _⟩ => some (.report e)
  | _ => none

end TunnelDeed

namespace ServeRound

variable {t : Tunnel}

theorem filterMap_polled? (round : ServeRound) :
    (round.deeds t).filterMap TunnelDeed.polled? = [round.polled] := by
  cases round <;> rfl

theorem filterMap_noted? (round : ServeRound) :
    (round.deeds t).filterMap TunnelDeed.noted? = round.notes := by
  cases round <;> rfl

end ServeRound

/-! ## The loop -/

namespace Tunnel

open TunnelDeed (ofMoments)
open TunnelStops (Interrupted)

/-- What a tunnel that is up does in rounds, at most so many of them. -/
structure Serves (t : Tunnel) (patience : Nat) (rounds : List ServeRound)
    (ms : List TunnelMoment) (run : TunnelRun) : Prop where
  /-- Behind the rounds nothing is done but that it is found that the tunnel was stopped. -/
  deeds : ∃ last ∈ [[], [TunnelDeed.look true], [.look false, .poll none]],
    ofMoments ms = rounds.flatMap (·.deeds t) ++ last
  /-- Until the tunnel is stopped it forwards. -/
  states : ∀ m ∈ ms, m.question.isDeed = true → m.state.found = [] →
    m.state.core.state = .forwarding
  /-- It is served until nobody looks any more. -/
  serving : run = .serving → rounds.length = patience
  /-- Or the tunnel was stopped. -/
  ended : run = .ended → ∃ m ∈ ms, m.state.found ≠ []

variable {t : Tunnel} {s s' : TunnelStops} {ms ms' : List TunnelMoment} {listener : ListenerRef}
  {patience : Nat} {run : TunnelRun} {rounds : List ServeRound}

namespace Serves

/-- What is picked from all deeds is picked from those of the rounds. -/
theorem filterMap {α : Type} {pick : TunnelDeed → Option α}
    (serves : t.Serves patience rounds ms run) (looks : ∀ stop, pick (.look stop) = none)
    (polls : pick (.poll none) = none) :
    (ofMoments ms).filterMap pick = rounds.flatMap fun round => (round.deeds t).filterMap pick := by
  obtain ⟨last, mem, deeds⟩ := serves.deeds
  have none : last.filterMap pick = [] := by
    refine List.filterMap_eq_nil_iff.mpr fun d here => ?_
    simp only [List.mem_cons, List.not_mem_nil, or_false] at mem
    obtain rfl | rfl | rfl := mem
    · cases here
    · cases List.mem_singleton.mp here
      exact looks true
    · rcases List.mem_cons.mp here with rfl | here
      · exact looks false
      · cases List.mem_singleton.mp here
        exact polls
  rw [deeds, List.filterMap_append, none, List.append_nil, List.filterMap_flatMap]

/-- Each round deals with what one poll yielded. -/
theorem polls (serves : t.Serves patience rounds ms run) :
    (ofMoments ms).filterMap TunnelDeed.polled? = rounds.map (·.polled) := by
  rw [serves.filterMap (fun _ => rfl) rfl, List.map_eq_flatMap]
  exact congrArg rounds.flatMap (funext ServeRound.filterMap_polled?)

/-- What others get to know is what they get to know of each round. -/
theorem notes (serves : t.Serves patience rounds ms run) :
    (ofMoments ms).filterMap TunnelDeed.noted? = rounds.flatMap (·.notes) := by
  rw [serves.filterMap (fun _ => rfl) rfl]
  exact congrArg rounds.flatMap (funext ServeRound.filterMap_noted?)

end Serves

/-- A round comes before others. -/
theorem Serves.cons {round : ServeRound} (serves : t.Serves patience rounds ms' run)
    (deeds : ofMoments ms = round.deeds t)
    (states : ∀ m ∈ ms, m.state.found = [] → m.state.core.state = .forwarding) :
    t.Serves (patience + 1) (round :: rounds) (ms ++ ms') run where
  deeds := by
    obtain ⟨last, mem, rest⟩ := serves.deeds
    refine ⟨last, mem, ?_⟩
    rw [TunnelDeed.ofMoments_append, deeds, rest, List.flatMap_cons, List.append_assoc]
  states m mem deed := by
    rcases List.mem_append.mp mem with mem | mem
    · exact states m mem
    · exact serves.states m mem deed
  serving ends := congrArg Nat.succ (serves.serving ends)
  ended ends := by
    obtain ⟨m, mem, stopped⟩ := serves.ended ends
    exact ⟨m, List.mem_append_right _ mem, stopped⟩

/-- Moves of the state are no deeds of a tunnel that serves. -/
theorem Serves.around {before after : List TunnelMoment} (serves : t.Serves patience rounds ms run)
    (silent : ∀ m ∈ before ++ after, m.question.isDeed = false) :
    t.Serves patience rounds (before ++ (ms ++ after)) run := by
  obtain ⟨silent, silent'⟩ := List.forall_mem_append.mp silent
  refine ⟨?deeds, fun m mem deed => ?states, serves.serving, fun ends => ?ended⟩
  case deeds =>
    obtain ⟨last, mem, deeds⟩ := serves.deeds
    refine ⟨last, mem, ?_⟩
    rw [TunnelDeed.ofMoments_append, TunnelDeed.ofMoments_append,
      TunnelDeed.ofMoments_eq_nil silent, TunnelDeed.ofMoments_eq_nil silent', List.append_nil,
      deeds]
    rfl
  case states =>
    rcases List.mem_append.mp mem with mem | mem
    · exact nomatch (silent m mem).symm.trans deed
    · rcases List.mem_append.mp mem with mem | mem
      · exact serves.states m mem deed
      · exact nomatch (silent' m mem).symm.trans deed
  case ended =>
    obtain ⟨m, mem, stopped⟩ := serves.ended ends
    exact ⟨m, List.mem_append_right _ (List.mem_append_left _ mem), stopped⟩

/-- A tunnel that forwards. -/
abbrev Forwards (listener : ListenerRef) (s : TunnelStops) : Prop :=
  s.Stands (.holding .forwarding listener)

theorem Forwards.state (forwards : Forwards listener s) (unstopped : s.found = []) :
    s.core.state = .forwarding := by
  obtain rfl | halted := forwards
  · rfl
  · exact absurd unstopped halted.stopped

theorem Forwards.deed {step : TunnelStep} {answer : step.Answer} (forwards : Forwards listener s)
    (taken : Interrupted s step answer s') (deed : step.isDeed = true) : Forwards listener s' :=
  TunnelStops.Stands.deed forwards taken deed rfl

/-- Deeds leave a tunnel forwarding. -/
theorem Forwards.along {α : Type} {x : TunnelProgram α} {a : α}
    (went : Program.Runs Interrupted x s ms a s') (forwards : Forwards listener s)
    (deeds : ∀ m ∈ ms, m.question.isDeed = true) :
    (∀ m ∈ ms, Forwards listener m.state) ∧ Forwards listener s' := by
  induction went with
  | done => exact ⟨List.forall_mem_nil _, forwards⟩
  | ask taken _ ih =>
    obtain ⟨deed, deeds⟩ := List.forall_mem_cons.mp deeds
    obtain ⟨all, last⟩ := ih (forwards.deed taken deed) deeds
    exact ⟨List.forall_mem_cons.mpr ⟨forwards, all⟩, last⟩

/-- Any other error is reported. -/
theorem serve_error {e : StreamError} (other : e ≠ .wouldBlock) :
    t.serve (.error e) = (ask (.report (.accept e)) >>= fun _ => sleep pollInterval) := by
  cases e with
  | wouldBlock => exact absurd rfl other
  | _ => rfl

/-- Whatever was polled, it is dealt with as it is to be in a round. -/
theorem serve_of_runs {polled : Except StreamError (Option ConnectionRef)} {u : Unit}
    (went : Program.Runs Interrupted (t.serve polled) s ms u s') :
    ∃ round : ServeRound, round.polled = polled ∧ ofMoments ms = round.reaction t ∧
      ∀ m ∈ ms, m.question.isDeed = true := by
  have rests (round : ServeRound) (reaction : round.reaction t = [.world (.sleep pollInterval) ()])
      (run : Program.Runs Interrupted (sleep pollInterval) s ms u s') :
      ofMoments ms = round.reaction t ∧ ∀ m ∈ ms, m.question.isDeed = true := by
    obtain ⟨rfl, -⟩ := Program.runs_question_iff.mp run
    exact ⟨reaction.symm, List.forall_mem_singleton.mpr rfl⟩
  match polled with
  | .ok (some connection) =>
    obtain ⟨dialed, s₁, _, rfl, -, handing⟩ := Program.runs_question_bind_iff.mp went
    cases dialed with
    | error e =>
      obtain ⟨rfl, -⟩ := Program.runs_question_iff.mp handing
      exact ⟨.undialed connection e, rfl, rfl, by simp [TunnelStep.isDeed]⟩
    | ok _ =>
      obtain ⟨split, s₂, _, rfl, -, handing⟩ := Program.runs_question_bind_iff.mp handing
      cases split with
      | error e =>
        obtain ⟨rfl, -⟩ := Program.runs_question_iff.mp handing
        exact ⟨.unsplit connection e, rfl, rfl, by simp [TunnelStep.isDeed]⟩
      | ok _ =>
        obtain ⟨rfl, -⟩ := Program.runs_question_iff.mp handing
        exact ⟨.forwarded connection, rfl, rfl, by simp [TunnelStep.isDeed]⟩
  | .ok none => exact ⟨.idle, rfl, rests _ rfl went⟩
  | .error e =>
    by_cases blocked : e = .wouldBlock
    · cases blocked
      exact ⟨.blocked, rfl, rests _ rfl went⟩
    · rw [serve_error blocked] at went
      obtain ⟨_, s₁, _, rfl, -, resting⟩ := Program.runs_question_bind_iff.mp went
      obtain ⟨rfl, -⟩ := Program.runs_question_iff.mp resting
      exact ⟨.failed e blocked, rfl, rfl, by simp [TunnelStep.isDeed]⟩

/-- Who finds the slot empty finds the tunnel stopped. -/
theorem Forwards.halted_of_poll (forwards : Forwards listener s)
    (taken : Interrupted s .poll none s') : s.Halted := by
  obtain rfl | halted := forwards
  · obtain ⟨_, ⟨world, answered⟩, -⟩ := taken
    cases congrArg Prod.fst answered
  · exact halted

/-- The accept loop does rounds until nobody looks any more or the tunnel is stopped. -/
theorem acceptLoop_of_runs (went : Program.Runs Interrupted (t.acceptLoop patience) s ms run s')
    (forwards : Forwards listener s) :
    (∃ rounds, t.Serves patience rounds ms run) ∧ Forwards listener s' ∧
      (run = .ended → s'.Halted) := by
  induction patience generalizing s ms with
  | zero =>
    obtain ⟨rfl, rfl, rfl⟩ := Program.runs_pure_iff.mp went
    refine ⟨⟨[], ?_⟩, forwards, nofun⟩
    exact {
      deeds := ⟨[], List.mem_cons_self, rfl⟩
      states := List.forall_mem_nil _
      serving := fun _ => rfl
      ended := nofun }
  | succ patience ih =>
    obtain ⟨stop, s₁, _, rfl, looks, polling⟩ := Program.runs_question_bind_iff.mp went
    have later := forwards.deed looks rfl
    cases stop with
    | true =>
      obtain ⟨rfl, rfl, rfl⟩ := Program.runs_pure_iff.mp polling
      have halted := forwards.halted_of_look rfl looks
      refine ⟨⟨[], ?_⟩, later, fun _ => halted.next looks⟩
      exact {
        deeds := ⟨[.look true], by simp, rfl⟩
        states := fun m mem _ => by
          cases List.mem_singleton.mp mem
          exact forwards.state
        serving := nofun
        ended := fun _ => ⟨_, List.mem_cons_self, halted.stopped⟩ }
    | false =>
      obtain ⟨polled, s₂, _, rfl, polls, serving⟩ := Program.runs_question_bind_iff.mp polling
      cases polled with
      | none =>
        obtain ⟨rfl, rfl, rfl⟩ := Program.runs_pure_iff.mp serving
        have halted := later.halted_of_poll polls
        refine ⟨⟨[], ?_⟩, later.deed polls rfl, fun _ => halted.next polls⟩
        exact {
          deeds := ⟨[.look false, .poll none], by simp, rfl⟩
          states := fun m mem _ => by
            rcases List.mem_cons.mp mem with rfl | mem
            · exact forwards.state
            · cases List.mem_singleton.mp mem
              exact later.state
          serving := nofun
          ended := fun _ => ⟨_, List.mem_cons_of_mem _ List.mem_cons_self, halted.stopped⟩ }
      | some polled =>
        obtain ⟨_, s₃, ms₁, ms₂, rfl, reacting, looping⟩ := Program.runs_bind_iff.mp serving
        obtain ⟨round, rfl, reaction, deeds⟩ := serve_of_runs reacting
        obtain ⟨all, last⟩ := Forwards.along reacting (later.deed polls rfl) deeds
        obtain ⟨⟨rounds, serves⟩, ends⟩ := ih looping last
        refine ⟨⟨round :: rounds, ?_⟩, ends⟩
        show t.Serves _ _ ((⟨s, .isAskedToStop, false⟩ :: ⟨s₁, .poll, some round.polled⟩ :: ms₁)
          ++ ms₂) run
        refine serves.cons ?_ fun m mem => ?_
        · rw [TunnelDeed.ofMoments_look, TunnelDeed.ofMoments_poll, reaction]
          rfl
        rcases List.mem_cons.mp mem with rfl | mem
        · exact forwards.state
        · rcases List.mem_cons.mp mem with rfl | mem
          · exact later.state
          · exact (all m mem).state

end Tunnel

end VmDeploy
