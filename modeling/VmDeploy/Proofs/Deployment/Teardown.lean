import VmDeploy.Proofs.Deployment.Order

/-!
# Teardowns that are taken up again

A teardown that fails leaves a deployment that can be torn down again. `Rounds` are teardowns each
of which starts from what the one before it left, with anything between them; `Teardown` says what
they come to together. Every element is gone at most once and in the order of the first deployment,
and what is not gone is what the last round leaves. Once a round has succeeded all is gone, and any
further round asks nothing.
-/

set_option autoImplicit false

namespace VmDeploy

variable {σ : Type} {env : Environment services σ}

/-- A teardown that was run: of which deployment and from which state, what it asked, how it ended
and what it left. -/
structure Round (σ : Type) where
  given : Deployment
  before : σ
  moments : List (Moment services σ)
  result : Except Failure Unit
  left : Deployment
  after : σ

namespace Round

/-- The round is a run of the teardown. -/
def Ran (env : Environment services σ) (c : Round σ) : Prop :=
  Program.Runs env c.given.delete c.before c.moments (c.result, c.left) c.after

/-- The round goes through the elements in order, and leaves a deployment of those that are not
gone. -/
structure Orderly (env : Environment services σ) (c : Round σ) (gone : List Element) : Prop where
  drains : Drains env c.given.pingTimeout c.given.pingDelay c.given.order c.before c.moments
    c.result gone c.left.order c.after
  /-- An element whose deletion failed ends the round, and is the first of those that are left. -/
  stopped : ∀ f, c.result = .error f →
    ∃ x rest, c.given.order = gone ++ x :: rest ∧ c.left.order = x.begun :: rest
  pingTimeout : c.left.pingTimeout = c.given.pingTimeout
  pingDelay : c.left.pingDelay = c.given.pingDelay

/-- Nothing of a kind is deleted before all that is ahead of that kind is gone. -/
def InOrder (env : Environment services σ) (c : Round σ) : Prop :=
  ∀ kind before m after, c.moments = before ++ m :: after → m.question.deletes? = some kind →
    ∃ prior s, prior <+: before ∧
      Drains env c.given.pingTimeout c.given.pingDelay (c.given.ahead kind) c.before prior (.ok ())
        (c.given.ahead kind) [] s

/-- The round did nothing, and that was a success. -/
structure Idle (c : Round σ) : Prop where
  result : c.result = .ok ()
  moments : c.moments = []
  left : c.left = c.given
  after : c.after = c.before

/-- The round against a handler. -/
def against (handler : Program.Handler services σ) (d : Deployment) (s : σ) : Round σ where
  given := d
  before := s
  moments := d.delete.trace handler s
  result := (d.delete.run handler s).1.1
  left := (d.delete.run handler s).1.2
  after := (d.delete.run handler s).2

theorem ran_against (handler : Program.Handler services σ) (d : Deployment) (s : σ) :
    (against handler d s).Ran (Program.ofHandler handler) :=
  Program.runs_ofHandler handler d.delete s

variable {c : Round σ} {gone : List Element}

/-- Every round is orderly. -/
theorem orderly_of_ran (alive : ∀ i ∈ c.given.instances, i.lifecycle ≠ .deleted)
    (ran : c.Ran env) : ∃ gone, c.Orderly env gone := by
  obtain ⟨⟨gone, drains⟩, pingTimeout, pingDelay⟩ := Deployment.drains_of_runs alive ran
  refine ⟨gone, drains, ?_, pingTimeout, pingDelay⟩
  intro f failed
  rw [failed] at drains
  exact drains.error

namespace Orderly

/-- What is left in a round can be deleted in the next. -/
theorem alive (orderly : c.Orderly env gone) (alive : ∀ x ∈ c.given.order, x.Alive) :
    ∀ x ∈ c.left.order, x.Alive :=
  orderly.drains.forall_left (fun _ _ => Element.alive_begun) alive

/-- The VMs that are left are as confined as they were. -/
theorem confined (orderly : c.Orderly env gone) (confined : ∀ x ∈ c.given.order, x.Confined) :
    ∀ x ∈ c.left.order, x.Confined :=
  orderly.drains.forall_left (fun _ => Element.confined_begun.mpr) confined

theorem inOrder (orderly : c.Orderly env gone) (alive : ∀ x ∈ c.given.order, x.Alive)
    (confined : ∀ x ∈ c.given.order, x.Confined) : c.InOrder env :=
  fun _ _ _ _ here deletes => Deployment.ahead_drained alive confined orderly.drains here deletes

/-- A round that is given nothing is idle. -/
theorem idle (orderly : c.Orderly env gone) (nothing : c.given.order = []) : c.Idle := by
  have drains := orderly.drains
  rw [nothing] at drains
  obtain ⟨result, moments, left, after⟩ := drains.of_nothing
  refine ⟨result, moments, ?_, after⟩
  exact Deployment.eq_of_order (left.trans nothing.symm) orderly.pingTimeout orderly.pingDelay

/-- A round that succeeds leaves nothing. -/
theorem ok (orderly : c.Orderly env gone) (succeeded : c.result = .ok ()) :
    gone = c.given.order ∧ c.left.order = [] := by
  have drains := orderly.drains
  rw [succeeded] at drains
  exact drains.ok

end Orderly

end Round

/-- Rounds each of which starts from what the one before it left. -/
inductive Rounds (env : Environment services σ) :
    Deployment → List (Round σ) → Deployment → Prop
  | none {d : Deployment} : Rounds env d [] d
  | next {c : Round σ} {cs : List (Round σ)} {d' : Deployment} (ran : c.Ran env)
      (rest : Rounds env c.left cs d') : Rounds env c.given (c :: cs) d'

/-- What is gone in some rounds, round by round. -/
inductive Accounted (env : Environment services σ) : List (Round σ) → List Element → Prop
  | none : Accounted env [] []
  | next {c : Round σ} {cs : List (Round σ)} {gone gone' : List Element}
      (orderly : c.Orderly env gone) (rest : Accounted env cs gone') :
      Accounted env (c :: cs) (gone ++ gone')

/-- What the teardowns of a deployment come to together. -/
structure Teardown (env : Environment services σ) (d : Deployment) (cs : List (Round σ))
    (d' : Deployment) (gone : List Element) : Prop where
  /-- In every round some elements are gone. -/
  account : Accounted env cs gone
  /-- With those that are left they are the elements of the deployment, in its order. -/
  whole : (gone ++ d'.order).map Element.begun = d.order.map Element.begun
  /-- No disk is deleted before all instances are gone, and no stemcell before all disks are too,
  if the VMs have nothing else deleted. Those of both kinds have not. -/
  inOrder : (∀ i ∈ d.instances, i.vm.Confined) → ∀ c ∈ cs, c.InOrder env
  /-- When a round has succeeded all is gone, and the rounds behind it do nothing. -/
  done : ∀ before c after, cs = before ++ c :: after → c.result = .ok () →
    c.left.instances = [] ∧ c.left.disks = [] ∧ c.left.stemcells = [] ∧
      gone.map Element.begun = d.order.map Element.begun ∧ ∀ c' ∈ after, c'.Idle

namespace Rounds

variable {d d' : Deployment} {cs : List (Round σ)}

/-- Where there is nothing to delete all rounds are idle. -/
theorem idle (rounds : Rounds env d cs d') (nothing : d.order = []) :
    d' = d ∧ ∀ c ∈ cs, c.Idle := by
  induction rounds with
  | none => exact ⟨rfl, by simp⟩
  | @next c cs d' ran _ ih =>
    have alive : ∀ i ∈ c.given.instances, i.lifecycle ≠ .deleted := by
      simp [(Deployment.order_eq_nil_iff.mp nothing).1]
    obtain ⟨gone, orderly⟩ := Round.orderly_of_ran alive ran
    have idle := orderly.idle nothing
    rw [idle.left] at ih
    obtain ⟨rfl, others⟩ := ih nothing
    exact ⟨rfl, List.forall_mem_cons.mpr ⟨idle, others⟩⟩

/-- However often a deployment is torn down, and whatever fails in between, its elements are deleted
in order, each once, and a teardown that succeeds has deleted them all. -/
theorem teardown (alive : ∀ i ∈ d.instances, i.lifecycle ≠ .deleted)
    (rounds : Rounds env d cs d') : ∃ gone, Teardown env d cs d' gone := by
  induction rounds with
  | none =>
    refine ⟨[], .none, rfl, ?_, ?_⟩
    · simp
    · simp
  | @next c cs d' ran rest ih =>
    obtain ⟨gone₁, orderly⟩ := Round.orderly_of_ran alive ran
    have aliveLeft := orderly.alive (Deployment.alive_iff.mpr alive)
    obtain ⟨gone₂, later⟩ := ih (Deployment.alive_iff.mp aliveLeft)
    have whole : ((gone₁ ++ gone₂) ++ d'.order).map Element.begun =
        c.given.order.map Element.begun := by
      rw [List.append_assoc, List.map_append, later.whole, ← List.map_append, orderly.drains.whole]
    refine ⟨gone₁ ++ gone₂, .next orderly later.account, whole, ?_, ?_⟩
    · intro confined
      have confined := Deployment.confined_iff.mpr confined
      have others := later.inOrder (Deployment.confined_iff.mp (orderly.confined confined))
      exact List.forall_mem_cons.mpr
        ⟨orderly.inOrder (Deployment.alive_iff.mpr alive) confined, others⟩
    · rintro (_ | ⟨b, before⟩) c' after split succeeded
      · cases split
        have nothing := (orderly.ok succeeded).2
        obtain ⟨instances, disks, stemcells⟩ := Deployment.order_eq_nil_iff.mp nothing
        obtain ⟨rfl, idle⟩ := rest.idle nothing
        rw [nothing, List.append_nil] at whole
        exact ⟨instances, disks, stemcells, whole, idle⟩
      · cases split
        obtain ⟨instances, disks, stemcells, all, idle⟩ := later.done before c' after rfl succeeded
        refine ⟨instances, disks, stemcells, ?_, idle⟩
        rw [List.map_append, all, ← List.map_append, orderly.drains.whole]

/-- Rounds against a handler, from given states. -/
def against (handler : Program.Handler services σ) : Deployment → List σ → List (Round σ)
  | _, [] => []
  | d, s :: states =>
    .against handler d s :: against handler (Round.against handler d s).left states

/-- What rounds against a handler leave. -/
def remains (handler : Program.Handler services σ) (d : Deployment) (states : List σ) :
    Deployment :=
  states.foldl (fun d s => (Round.against handler d s).left) d

theorem rounds_against (handler : Program.Handler services σ) (d : Deployment) (states : List σ) :
    Rounds (Program.ofHandler handler) d (against handler d states)
      (remains handler d states) := by
  induction states generalizing d with
  | nil => exact .none
  | cons s states ih =>
    exact .next (c := .against handler d s) (Round.ran_against handler d s) (ih _)

/-- Two instances, the second of which is driven through cloud and agent, a disk and a stemcell. -/
def sample : Deployment where
  instances := [.sample, ⟨"db", 0, .ofAgent ⟨⟨"vm-db", by decide⟩, ⟨"agent", 0⟩⟩, {}, .running⟩]
  disks := [.ofRecord ⟨default, ⟨"disk-db", by decide⟩, 1024, [], ⟨0, 0⟩⟩]
  stemcells := [⟨⟨"sc-1", by decide⟩, "ubuntu", "1"⟩]
  pingTimeout := .ofMillis 10000
  pingDelay := .ofMillis 500

/-- Services in the first, the second and any later round. The record of the disk cannot be removed
in the first, though the disk is deleted; the stemcell cannot be deleted in the second, and has
vanished in the third. -/
def troubled : Program.Handler services Nat
  | .vm _ request, n => (Instance.sampleAnswer request, n)
  | .registry (.delete _), 0 => (Except.error (.invalid "locked"), 0)
  | .registry (.delete _), n => (Except.ok (ε := RegistryError) (), n)
  | .cloud (.deleteDisk _), n + 1 =>
    (Except.error (.rejected "delete_disk" .diskNotFound "gone" false), n + 1)
  | .cloud (.deleteStemcell _), 1 => (Except.error (.exec "delete_stemcell" "broken"), 1)
  | .cloud (.deleteStemcell _), n + 2 =>
    (Except.error (.rejected "delete_stemcell" .stemcellNotFound "gone" false), n + 2)
  | q, n => (q.plainAnswer, n)

theorem teardown_sample :
    (∀ i ∈ sample.instances, i.lifecycle ≠ .deleted) ∧
      (∀ i ∈ sample.instances, i.vm.Confined) ∧
      (against troubled sample [0, 1, 2, 2]).map (·.result.isOk) = [false, false, true, true] ∧
      (against troubled sample [0, 1, 2, 2]).map (·.left.order.length) = [2, 1, 0, 0] ∧
      ∃ gone, Teardown (Program.ofHandler troubled) sample (against troubled sample [0, 1, 2, 2])
        (remains troubled sample [0, 1, 2, 2]) gone := by
  have alive : ∀ i ∈ sample.instances, i.lifecycle ≠ .deleted :=
    List.forall_mem_cons.mpr ⟨nofun, List.forall_mem_singleton.mpr nofun⟩
  have confined : ∀ i ∈ sample.instances, i.vm.Confined :=
    List.forall_mem_cons.mpr
      ⟨Vm.confined_remote _ _, List.forall_mem_singleton.mpr (AgentVm.confined _)⟩
  refine ⟨alive, confined, by decide +kernel, by decide +kernel, ?_⟩
  exact teardown alive (rounds_against troubled sample [0, 1, 2, 2])

end Rounds

end VmDeploy
