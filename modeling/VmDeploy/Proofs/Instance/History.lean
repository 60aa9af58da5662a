import VmDeploy.Proofs.Instance.Contacts

/-!
# Histories of an instance

An instance may be asked anything, in any order and any number of times, and whatever it works
with may fail at any moment. An `InstanceHistory` is such a course of calls, each of which starts
from the instance that the one before it left.

One call of an operation is either refused, and then nothing happens, or it works in the state
that it enters and leaves it only by succeeding (`InstanceCall.worked_or_refused`). What that
means for a history is `Life`: when an instance is running, what is left to an instance whose
deletion has begun, and that a deleted one stays deleted.

A listing of the disks makes no move and looks at no state (`InstanceCall.listed`). So it is the
one call that a deleted instance does not refuse, and it still reaches the VM.
-/

set_option autoImplicit false

namespace VmDeploy

namespace Instance

variable {σ α : Type} {env : Environment services σ} {entry goal : Lifecycle} {i i' : Instance}
  {s s' : σ} {ms : List (Moment services σ)}

/-- What holds of work that an instance entered a state for, on its way to another. -/
structure Works (env : Environment services σ) (entry goal : Lifecycle) (i : Instance) (s : σ)
    (ms : List (Moment services σ)) (r : Except Failure α) (i' : Instance) (s' : σ) : Prop where
  /-- Only the lifecycle has moved, and only success moves it on. -/
  left : i' = i.movedTo (if r.isOk then goal else entry)
  /-- All that was asked went to the VM and what works beside it, and if the work failed with a
  refusal that came back from there. -/
  handsOn : ∃ contacts, i.vm.Contacts env s ms contacts s' ∧ HandedOn contacts r

/-- Work that makes no move leaves the instance where it is. -/
theorem works_of_act {work : Action α} {r : Except Failure α} (hands : HandsOn env i.vm work)
    (here : i.lifecycle = entry)
    (run : InstanceAction.Runs env (act work) i s ms r i' s') :
    Works env entry entry i s ms r i' s' := by
  obtain ⟨rfl, ran⟩ := InstanceAction.runs_act_iff.mp run
  refine ⟨?_, hands ran⟩
  rw [ite_self, ← here]
  rfl

/-- Work that is followed by a move leaves the instance where the move puts it, if it succeeds. -/
theorem works_of_leave {work : Action Unit} {r : Except Failure Unit}
    (hands : HandsOn env i.vm work) (here : i.lifecycle = entry)
    (allowed : entry.canMoveTo goal = true)
    (run : InstanceAction.Runs env (do act work; move goal) i s ms r i' s') :
    Works env entry goal i s ms r i' s' := by
  rw [← here] at allowed
  obtain ⟨ran, left⟩ := (InstanceAction.runs_leave_iff allowed).mp run
  refine ⟨?_, hands ran⟩
  rw [left, ← here]
  split <;> rfl

/-- A listing is the VM's in other words, and leaves the instance alone. -/
theorem asked_of_listing {r : Except Failure (List Disk)}
    (run : InstanceAction.Runs env (do act (← getThe Instance).disks) i s ms r i' s') :
    i' = i ∧ ∃ answer, r = answer.mapError (.context "Listing instance disks") ∧
      Action.Runs env i.vm.disks s ms answer s' := by
  rcases InstanceAction.runs_bind_iff.mp run with
    ⟨e, rfl, failed⟩ | ⟨j, i₁, s₁, ms₁, ms₂, rfl, got, ran⟩
  · obtain ⟨-, none, -⟩ := InstanceAction.runs_get_iff.mp failed
    cases none
  · obtain ⟨rfl, here, rfl, rfl⟩ := InstanceAction.runs_get_iff.mp got
    cases here
    obtain ⟨left, asked⟩ := InstanceAction.runs_act_iff.mp ran
    exact ⟨left, Action.runs_inContext_iff.mp asked⟩

end Instance

/-- The deletion of an instance has begun. -/
def Lifecycle.Closing (s : Lifecycle) : Prop := s = .shuttingDown ∨ s = .deleted

/-- A deletion that has begun is only gone on with. -/
theorem Lifecycle.Closing.next {s next : Lifecycle} (closing : s.Closing)
    (allowed : s.canMoveTo next = true) : next.Closing := by
  rcases closing with rfl | rfl
  · cases next with
    | shuttingDown => exact .inl rfl
    | deleted => exact .inr rfl
    | _ => cases allowed
  · cases allowed

/-- What an instance is asked to do. -/
inductive InstanceRequest where
  | waitUntilReady (server : SettingsServer) (access : TunnelAccess)
  | updateDisks (manifest : Manifest)
  | updateJobs (manifest : Manifest) (image : StemcellApplySpec)
  | delete (pingTimeout pingDelay : Duration)
  | disks

namespace InstanceRequest

/-- What an instance answers when nothing fails. -/
def Value : InstanceRequest → Type
  | .updateDisks _ | .disks => List Disk
  | .waitUntilReady _ _ | .updateJobs _ _ | .delete _ _ => Unit

/-- Does what an instance is asked. -/
def perform : (request : InstanceRequest) → InstanceAction request.Value
  | .waitUntilReady server access => Instance.waitUntilReady server access
  | .updateDisks manifest => Instance.updateDisks manifest
  | .updateJobs manifest image => Instance.updateJobs manifest image
  | .delete pingTimeout pingDelay => Instance.delete pingTimeout pingDelay
  | .disks => do Instance.act (← getThe Instance).disks

/-- The state in which an operation works, and the one behind its success. A listing is no
operation and has neither. -/
def moves? : InstanceRequest → Option (Lifecycle × Lifecycle)
  | .waitUntilReady _ _ => some (.awaitingAgent, .awaitingAgent)
  | .updateDisks _ => some (.convergingDisks, .convergingDisks)
  | .updateJobs _ _ => some (.convergingJobs, .running)
  | .delete _ _ => some (.shuttingDown, .deleted)
  | .disks => none

/-- Whether it is a deletion. -/
def isDeletion : InstanceRequest → Bool
  | .delete _ _ => true
  | _ => false

variable {σ : Type} {env : Environment services σ} {request : InstanceRequest}
  {entry goal : Lifecycle}

theorem moves?_of_isDeletion (deletion : request.isDeletion = true) :
    request.moves? = some (.shuttingDown, .deleted) := by
  cases request with
  | delete _ _ => rfl
  | _ => cases deletion

/-- Of the operations only a deletion enters the shutdown. -/
theorem isDeletion_of_closing (moves : request.moves? = some (entry, goal))
    (closing : entry.Closing) : request.isDeletion = true ∧ entry = .shuttingDown ∧
      goal = .deleted := by
  cases request with
  | delete _ _ =>
    cases moves
    exact ⟨rfl, rfl, rfl⟩
  | disks => cases moves
  | _ =>
    cases moves
    rcases closing with wrong | wrong <;> cases wrong

/-- Only the success of an update of the jobs leads to running jobs. -/
theorem updateJobs_of_running (moves : request.moves? = some (entry, goal)) {succeeded : Bool}
    (running : (if succeeded then goal else entry) = .running) :
    (∃ manifest image, request = .updateJobs manifest image) ∧ succeeded = true := by
  cases request with
  | updateJobs manifest image =>
    cases moves
    cases succeeded with
    | true => exact ⟨⟨manifest, image, rfl⟩, rfl⟩
    | false => cases running
  | disks => cases moves
  | _ =>
    cases moves
    cases succeeded <;> cases running

/-- An operation enters its state and works there. -/
theorem perform_eq (moves : request.moves? = some (entry, goal)) :
    ∃ work : Instance → InstanceAction request.Value,
      request.perform = (do Instance.move entry; let i ← getThe Instance; work i) ∧
      ∀ ⦃i s ms r i' s'⦄, i.lifecycle = entry →
        InstanceAction.Runs env (work i) i s ms r i' s' →
          Instance.Works env entry goal i s ms r i' s' := by
  cases request with
  | waitUntilReady server access =>
    cases moves
    exact ⟨fun i => Instance.act (i.readyWork server access), rfl,
      fun _ _ _ _ _ _ => Instance.works_of_act Instance.handsOn_readyWork⟩
  | updateDisks manifest =>
    cases moves
    exact ⟨_, Instance.updateDisks_eq,
      fun _ _ _ _ _ _ => Instance.works_of_act Instance.handsOn_diskWork⟩
  | updateJobs manifest image =>
    cases moves
    exact ⟨_, Instance.updateJobs_eq,
      fun _ _ _ _ _ _ here => Instance.works_of_leave Instance.handsOn_jobWork here rfl⟩
  | delete pingTimeout pingDelay =>
    cases moves
    exact ⟨_, Instance.delete_eq,
      fun _ _ _ _ _ _ here => Instance.works_of_leave Instance.handsOn_removal here rfl⟩
  | disks => cases moves

end InstanceRequest

/-- A call of an instance: of which and in which state of its services, what it asked of them, how
it ended and what it left. -/
structure InstanceCall (σ : Type) where
  given : Instance
  request : InstanceRequest
  before : σ
  moments : List (Moment services σ)
  result : Except Failure request.Value
  left : Instance
  after : σ

namespace InstanceCall

variable {σ : Type} {env : Environment services σ} {c : InstanceCall σ} {entry goal : Lifecycle}

/-- The call is a run of what was asked. -/
def Ran (env : Environment services σ) (c : InstanceCall σ) : Prop :=
  InstanceAction.Runs env c.request.perform c.given c.before c.moments c.result c.left c.after

/-- The lifecycle allows the instance to enter the state that the operation works in. -/
def Accepted (c : InstanceCall σ) : Prop :=
  ∃ entry goal, c.request.moves? = some (entry, goal) ∧ c.given.lifecycle.canMoveTo entry = true

/-- The move was refused. Nobody was asked anything, and nothing changed. -/
structure Refused (c : InstanceCall σ) (entry : Lifecycle) : Prop where
  result : c.result = .error (.lifecycle ⟨c.given.slot, c.given.lifecycle, entry⟩)
  moments : c.moments = []
  left : c.left = c.given
  after : c.after = c.before

/-- The call listed the disks that the VM told, and left the instance alone. -/
inductive Listed (env : Environment services σ) : InstanceCall σ → Prop
  | mk {i : Instance} {s s' : σ} {ms : List (Moment services σ)}
      {answer : Except Failure (List Disk)} (asked : Action.Runs env i.vm.disks s ms answer s') :
      Listed env ⟨i, .disks, s, ms, answer.mapError (.context "Listing instance disks"), i, s'⟩

/-- The operation was at work, in a state and on its way to another. -/
def Worked (env : Environment services σ) (c : InstanceCall σ) (entry goal : Lifecycle) : Prop :=
  Instance.Works env entry goal c.given c.before c.moments c.result c.left c.after

/-- An operation either works in the state that it enters, or is refused. -/
theorem worked_or_refused (ran : c.Ran env) (moves : c.request.moves? = some (entry, goal)) :
    if c.given.lifecycle.canMoveTo entry then c.Worked env entry goal else c.Refused entry := by
  obtain ⟨work, here, done⟩ := InstanceRequest.perform_eq moves
  rw [Ran, here, InstanceAction.runs_enter_iff] at ran
  split at ran
  · rename_i allowed
    rw [if_pos allowed]
    obtain ⟨left, handsOn⟩ := done rfl ran
    exact ⟨left, handsOn⟩
  · rename_i forbidden
    rw [if_neg forbidden]
    obtain ⟨moments, result, left, after⟩ := ran
    exact ⟨result, moments, left, after⟩

/-- A listing goes to the VM whatever became of the instance. -/
theorem listed (ran : c.Ran env) (listing : c.request.moves? = none) : c.Listed env := by
  obtain ⟨i, request, s, ms, r, i', s'⟩ := c
  cases request with
  | disks =>
    have run : InstanceAction.Runs env (do Instance.act (← getThe Instance).disks) i s ms r i' s' :=
      ran
    obtain ⟨rfl, answer, rfl, asked⟩ := Instance.asked_of_listing run
    exact .mk asked
  | _ => cases listing

/-- A call against a handler. -/
def against (handler : Program.Handler services σ) (i : Instance) (request : InstanceRequest)
    (s : σ) : InstanceCall σ where
  given := i
  request := request
  before := s
  moments := (request.perform.run.run i).trace handler s
  result := ((request.perform.run.run i).run handler s).1.1
  left := ((request.perform.run.run i).run handler s).1.2
  after := ((request.perform.run.run i).run handler s).2

theorem ran_against (handler : Program.Handler services σ) (i : Instance)
    (request : InstanceRequest) (s : σ) :
    (against handler i request s).Ran (Program.ofHandler handler) :=
  Program.runs_ofHandler handler (request.perform.run.run i) s

/-- How a call that is accepted or not leaves the lifecycle. -/
theorem lifecycle_left (ran : c.Ran env) :
    c.left.lifecycle = c.given.lifecycle ∨ ∃ entry goal,
      c.request.moves? = some (entry, goal) ∧ c.given.lifecycle.canMoveTo entry = true ∧
        c.left.lifecycle = if c.result.isOk then goal else entry := by
  cases moves : c.request.moves? with
  | none =>
    obtain ⟨_⟩ := c.listed ran moves
    exact .inl rfl
  | some pair =>
    obtain ⟨entry, goal⟩ := pair
    have course := c.worked_or_refused ran moves
    split at course
    · rename_i allowed
      exact .inr ⟨entry, goal, rfl, allowed, by rw [course.left]; rfl⟩
    · exact .inl (by rw [course.left])

end InstanceCall

/-- Calls each of which starts from what the one before it left. -/
inductive InstanceHistory {σ : Type} (env : Environment services σ) :
    Instance → List (InstanceCall σ) → Instance → Prop
  | none {i : Instance} : InstanceHistory env i [] i
  | next {c : InstanceCall σ} {cs : List (InstanceCall σ)} {i' : Instance} (ran : c.Ran env)
      (rest : InstanceHistory env c.left cs i') : InstanceHistory env c.given (c :: cs) i'

namespace InstanceHistory

variable {σ : Type} {env : Environment services σ} {i i' : Instance} {c : InstanceCall σ}
  {cs before after : List (InstanceCall σ)}

theorem ran_of_mem (history : InstanceHistory env i cs i') (mem : c ∈ cs) : c.Ran env := by
  induction history with
  | none => cases mem
  | next ran _ ih =>
    rcases List.mem_cons.mp mem with rfl | later
    · exact ran
    · exact ih later

/-- What follows a call is a history of what the call left. -/
theorem behind (history : InstanceHistory env i (before ++ c :: after) i') :
    c.Ran env ∧ InstanceHistory env c.left after i' := by
  induction before generalizing i with
  | nil =>
    obtain ⟨⟩ | ⟨ran, rest⟩ := history
    exact ⟨ran, rest⟩
  | cons _ _ ih =>
    obtain ⟨⟩ | ⟨_, rest⟩ := history
    exact ih rest

/-- What no call breaks holds throughout a history. -/
theorem invariant {P : Lifecycle → Prop}
    (step : ∀ c : InstanceCall σ, c.Ran env → P c.given.lifecycle → P c.left.lifecycle)
    (history : InstanceHistory env i cs i') (start : P i.lifecycle) :
    P i'.lifecycle ∧ ∀ c ∈ cs, P c.given.lifecycle ∧ P c.left.lifecycle := by
  induction history with
  | none => exact ⟨start, by simp⟩
  | @next c _ _ ran _ ih =>
    have left := step c ran start
    obtain ⟨last, others⟩ := ih left
    exact ⟨last, List.forall_mem_cons.mpr ⟨⟨start, left⟩, others⟩⟩

end InstanceHistory

/-- What the calls of an instance come to together, whatever they are and whatever fails. -/
structure Life {σ : Type} (env : Environment services σ) (cs : List (InstanceCall σ))
    (i' : Instance) : Prop where
  /-- An operation that the lifecycle does not allow is refused, and one that it allows works in
  the state that it enters and leaves that only by succeeding. -/
  each : ∀ c ∈ cs, ∀ entry goal, c.request.moves? = some (entry, goal) →
    if c.given.lifecycle.canMoveTo entry then c.Worked env entry goal else c.Refused entry
  /-- An instance gets to be running only by an update of its jobs that succeeds. -/
  running : ∀ c ∈ cs, c.given.lifecycle ≠ .running → c.left.lifecycle = .running →
    (∃ manifest image, c.request = .updateJobs manifest image) ∧ c.result.isOk = true
  /-- Behind a deletion that was accepted no other operation is ever accepted. -/
  closing : ∀ before c after, cs = before ++ c :: after → c.request.isDeletion = true →
    c.Accepted → ∀ c' ∈ after, c'.Accepted → c'.request.isDeletion = true
  /-- A deleted instance stays deleted. -/
  deleted : ∀ before c after, cs = before ++ c :: after → c.left.lifecycle = .deleted →
    i'.lifecycle = .deleted ∧ ∀ c' ∈ after, c'.left.lifecycle = .deleted
  /-- A deletion is accepted at any time unless the instance is deleted. -/
  deletable : ∀ c ∈ cs, c.request.isDeletion = true →
    (c.Accepted ↔ c.given.lifecycle ≠ .deleted)

namespace InstanceCall

variable {σ : Type} {env : Environment services σ} {c : InstanceCall σ}

/-- No call takes back a deletion that has begun. -/
theorem closing_left (ran : c.Ran env) (closing : c.given.lifecycle.Closing) :
    c.left.lifecycle.Closing := by
  rcases c.lifecycle_left ran with same | ⟨entry, goal, moves, allowed, left⟩
  · rwa [same]
  · obtain ⟨-, rfl, rfl⟩ := InstanceRequest.isDeletion_of_closing moves (closing.next allowed)
    rw [left]
    split
    · exact .inr rfl
    · exact .inl rfl

/-- No call moves a deleted instance. -/
theorem deleted_left (ran : c.Ran env) (deleted : c.given.lifecycle = .deleted) :
    c.left.lifecycle = .deleted := by
  rcases c.lifecycle_left ran with same | ⟨_, _, _, allowed, _⟩
  · rwa [same]
  · rw [deleted] at allowed
    cases allowed

/-- A deletion that was accepted has begun, and is done if it succeeds. -/
theorem left_of_accepted (ran : c.Ran env) (deletion : c.request.isDeletion = true)
    (accepted : c.Accepted) :
    c.left.lifecycle = if c.result.isOk then .deleted else .shuttingDown := by
  obtain ⟨entry, goal, moves, allowed⟩ := accepted
  have worked := c.worked_or_refused ran moves
  rw [if_pos allowed] at worked
  cases (InstanceRequest.moves?_of_isDeletion deletion).symm.trans moves
  exact congrArg Instance.lifecycle worked.left

theorem closing_of_accepted (ran : c.Ran env) (deletion : c.request.isDeletion = true)
    (accepted : c.Accepted) : c.left.lifecycle.Closing := by
  rw [c.left_of_accepted ran deletion accepted]
  split
  · exact .inr rfl
  · exact .inl rfl

/-- While a deletion goes on nothing else is accepted. -/
theorem isDeletion_of_accepted (closing : c.given.lifecycle.Closing) (accepted : c.Accepted) :
    c.request.isDeletion = true := by
  obtain ⟨entry, goal, moves, allowed⟩ := accepted
  exact (InstanceRequest.isDeletion_of_closing moves (closing.next allowed)).1

/-- A deletion is accepted unless the instance is deleted. -/
theorem accepted_iff (deletion : c.request.isDeletion = true) :
    c.Accepted ↔ c.given.lifecycle ≠ .deleted := by
  constructor
  · rintro ⟨entry, goal, -, allowed⟩ deleted
    rw [deleted] at allowed
    cases allowed
  · intro alive
    exact ⟨_, _, InstanceRequest.moves?_of_isDeletion deletion, Instance.canShutDown alive⟩

/-- A deletion that succeeds leaves the instance deleted. -/
theorem deleted_of_isOk (ran : c.Ran env) (deletion : c.request.isDeletion = true)
    (succeeded : c.result.isOk = true) : c.left.lifecycle = .deleted := by
  have moves := InstanceRequest.moves?_of_isDeletion deletion
  have course := c.worked_or_refused ran moves
  split at course
  · rename_i allowed
    rw [c.left_of_accepted ran deletion ⟨_, _, moves, allowed⟩, if_pos succeeded]
  · rw [course.result] at succeeded
    cases succeeded

end InstanceCall

namespace InstanceHistory

variable {σ : Type} {env : Environment services σ} {i i' : Instance} {cs : List (InstanceCall σ)}

/-- Every history of an instance is a life. -/
theorem life (history : InstanceHistory env i cs i') : Life env cs i' where
  each c mem entry goal moves := c.worked_or_refused (history.ran_of_mem mem) moves
  running c mem other running := by
    rcases c.lifecycle_left (history.ran_of_mem mem) with same | ⟨entry, goal, moves, _, left⟩
    · exact absurd (same.symm.trans running) other
    · exact InstanceRequest.updateJobs_of_running moves (left.symm.trans running)
  closing before c after split deletion accepted c' mem := by
    rw [split] at history
    obtain ⟨ran, rest⟩ := history.behind
    have closing := c.closing_of_accepted ran deletion accepted
    have kept := rest.invariant (P := Lifecycle.Closing) (fun c ran => c.closing_left ran) closing
    exact c'.isDeletion_of_accepted (kept.2 c' mem).1
  deleted before c after split deleted := by
    rw [split] at history
    have kept := history.behind.2.invariant (P := (· = .deleted))
      (fun c ran => c.deleted_left ran) deleted
    exact ⟨kept.1, fun c' mem => (kept.2 c' mem).2⟩
  deletable c _ deletion := c.accepted_iff deletion

/-- Calls against a handler, each with the state that it meets the services in. -/
def against (handler : Program.Handler services σ) :
    Instance → List (InstanceRequest × σ) → List (InstanceCall σ)
  | _, [] => []
  | i, (request, s) :: calls =>
    .against handler i request s ::
      against handler (InstanceCall.against handler i request s).left calls

/-- What calls against a handler leave. -/
def remains (handler : Program.Handler services σ) (i : Instance)
    (calls : List (InstanceRequest × σ)) : Instance :=
  calls.foldl (fun i call => (InstanceCall.against handler i call.1 call.2).left) i

theorem history_against (handler : Program.Handler services σ) (i : Instance)
    (calls : List (InstanceRequest × σ)) :
    InstanceHistory (Program.ofHandler handler) i (against handler i calls)
      (remains handler i calls) := by
  induction calls generalizing i with
  | nil => exact .none
  | cons call calls ih =>
    exact .next (c := .against handler i call.1 call.2)
      (InstanceCall.ran_against handler i call.1 call.2) (ih _)

/-- A new instance with a VM that somebody else drives. -/
def sample : Instance := Instance.sample.movedTo .unprovisioned

/-- Services that fail in their first state: the VM is neither stopped nor deleted there. -/
def shaky : Program.Handler services Nat
  | .vm _ .stop, 0 => (Except.error (.plain "stuck"), 0)
  | .vm _ .delete, 0 => (Except.error (.plain "locked"), 0)
  | .vm _ request, n => (Instance.sampleAnswer request, n)
  | .buildState _ _ _ _, n => (Except.ok (ε := Failure) (default : DesiredState), n)
  | q, n => (q.plainAnswer, n)

/-- Jobs are updated before there is an agent, in vain and then with success; the instance is
deleted, in vain and then with success, with a call in between and calls behind. -/
def sampleCalls : List (InstanceRequest × Nat) :=
  [(.updateJobs (Instance.watchedFor 1000) ⟨⟨"", []⟩, []⟩, 1), (.waitUntilReady {} {}, 1),
    (.updateJobs (Instance.watchedFor 1000) ⟨⟨"", []⟩, []⟩, 0),
    (.updateJobs (Instance.watchedFor 1000) ⟨⟨"", []⟩, []⟩, 1),
    (.delete (.ofMillis 10000) (.ofMillis 500), 0), (.waitUntilReady {} {}, 1),
    (.delete (.ofMillis 10000) (.ofMillis 500), 1), (.disks, 1), (.waitUntilReady {} {}, 1)]

theorem life_sample :
    (against shaky sample sampleCalls).map (·.result.isOk) =
        [false, true, false, true, false, false, true, true, false] ∧
      (against shaky sample sampleCalls).map (·.left.lifecycle) =
        [.unprovisioned, .awaitingAgent, .convergingJobs, .running, .shuttingDown, .shuttingDown,
          .deleted, .deleted, .deleted] ∧
      Life (Program.ofHandler shaky) (against shaky sample sampleCalls)
        (remains shaky sample sampleCalls) := by
  refine ⟨by decide +kernel, by decide +kernel, ?_⟩
  exact life (history_against shaky sample sampleCalls)

/-- Behind a deletion that succeeded every operation is refused, and nobody is asked anything. A
listing of the disks is not refused: it is the VM's, as if the instance were there. -/
theorem refused_or_listed {before after : List (InstanceCall σ)} {c : InstanceCall σ}
    (history : InstanceHistory env i (before ++ c :: after) i')
    (deletion : c.request.isDeletion = true) (succeeded : c.result.isOk = true) :
    ∀ c' ∈ after, c'.given.lifecycle = .deleted ∧
      (∀ entry goal, c'.request.moves? = some (entry, goal) → c'.Refused entry) ∧
      (c'.request.moves? = .none → c'.Listed env) := by
  obtain ⟨ran, rest⟩ := history.behind
  have deleted := c.deleted_of_isOk ran deletion succeeded
  have kept := rest.invariant (P := (· = .deleted)) (fun c ran => c.deleted_left ran) deleted
  intro c' mem
  have here := (kept.2 c' mem).1
  have ran' := rest.ran_of_mem mem
  refine ⟨here, fun entry goal moves => ?_, c'.listed ran'⟩
  have course := c'.worked_or_refused ran' moves
  rw [here] at course
  exact course

/-- An instance is deleted, and is then asked for its disks and for its agent. -/
def sampleAftermath : List (InstanceRequest × Nat) :=
  [(.delete (.ofMillis 10000) (.ofMillis 500), 1), (.disks, 1), (.waitUntilReady {} {}, 1)]

theorem refused_or_listed_sample :
    (against shaky sample sampleAftermath).map (·.result.isOk) = [true, true, false] ∧
      ∀ c ∈ (against shaky sample sampleAftermath).tail, c.given.lifecycle = .deleted ∧
        (∀ entry goal, c.request.moves? = some (entry, goal) → c.Refused entry) ∧
        (c.request.moves? = .none → c.Listed (Program.ofHandler shaky)) := by
  refine ⟨by decide +kernel, ?_⟩
  have history : InstanceHistory _ sample ([] ++ _ :: _) _ :=
    history_against shaky sample sampleAftermath
  exact refused_or_listed history rfl (by decide +kernel)

/-- A deleted instance may still turn to its VM, and list the disks that the VM tells. -/
theorem listed_behind_deletion :
    ¬ ∀ (env : Environment services Nat) (i i' : Instance) (before after : List (InstanceCall Nat))
      (c : InstanceCall Nat), InstanceHistory env i (before ++ c :: after) i' →
        c.request.isDeletion = true → c.result.isOk = true →
          ∀ c' ∈ after, c'.moments.filterMap Moment.vmCall? = [] ∧ c'.result.isOk = false := by
  intro claim
  have inert := claim _ _ _ [] _ _ (history_against shaky sample sampleAftermath) rfl
    (by decide +kernel) _ List.mem_cons_self
  have lists : (InstanceCall.against shaky (InstanceCall.against shaky sample
      (.delete (.ofMillis 10000) (.ofMillis 500)) 1).left .disks 1).result.isOk = true := by
    decide +kernel
  rw [inert.2] at lists
  cases lists

end InstanceHistory

end VmDeploy
