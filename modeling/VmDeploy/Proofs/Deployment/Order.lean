import Mathlib.Data.List.Basic
import VmDeploy.Proofs.Deployment.Elements

/-!
# The order of a teardown

A deployment is one list of elements, in the order in which they are deleted
(`Deployment.order`), and the list says what the deployment holds (`Deployment.order_inj`). A
teardown goes through that list and stops at the first element whose deletion fails (`Drains`),
and the deployment that it leaves is what is left of the list (`Deployment.drains_of_runs`).

While the VMs delete nothing but VMs, a resource is deleted only when all the elements of the
kinds before it are gone (`Drains.reached`).
-/

set_option autoImplicit false

namespace VmDeploy

variable {σ : Type} {env : Environment services σ} {timeout delay : Duration} {s s₁ s' : σ}
  {ms ms₁ ms₂ : List (Moment services σ)} {r : Except Failure Unit}

/-- Elements are deleted in turn up to the first whose deletion fails. The elements that are gone
were deleted, those that are left were not, and the first of these is the one that failed. -/
inductive Drains (env : Environment services σ) (timeout delay : Duration) :
    (elements : List Element) → σ → List (Moment services σ) → Except Failure Unit →
      (gone left : List Element) → σ → Prop
  | empty {s : σ} : Drains env timeout delay [] s [] (.ok ()) [] [] s
  | deleted {x x' : Element} {xs gone left : List Element} {s s₁ s' : σ}
      {ms₁ ms₂ : List (Moment services σ)} {r : Except Failure Unit}
      (run : Program.Runs env (x.delete timeout delay) s ms₁ (.ok (), x') s₁)
      (deleted : x.Deleted env ms₁ s₁) (rest : Drains env timeout delay xs s₁ ms₂ r gone left s') :
      Drains env timeout delay (x :: xs) s (ms₁ ++ ms₂) r (x :: gone) left s'
  | failed {x : Element} {xs : List Element} {f : Failure} {s s' : σ}
      {ms : List (Moment services σ)}
      (run : Program.Runs env (x.delete timeout delay) s ms (.error f, x.begun) s') :
      Drains env timeout delay (x :: xs) s ms (.error f) [] (x.begun :: xs) s'

namespace Drains

variable {x : Element} {xs ys gone gone₁ gone₂ left left₁ left₂ : List Element} {f : Failure}

/-- When all elements are gone others may follow. -/
theorem append (first : Drains env timeout delay xs s ms₁ (.ok ()) gone₁ left₁ s₁)
    (second : Drains env timeout delay ys s₁ ms₂ r gone₂ left₂ s') :
    Drains env timeout delay (xs ++ ys) s (ms₁ ++ ms₂) r (gone₁ ++ gone₂) left₂ s' := by
  generalize ended : Except.ok () = r₁ at first
  induction first with
  | empty => exact second
  | deleted run deleted _ ih =>
    rw [List.append_assoc]
    exact .deleted run deleted (ih second ended)
  | failed _ => cases ended

/-- What stands behind a failure is left. -/
theorem stop (broken : Drains env timeout delay xs s ms (.error f) gone left s') :
    Drains env timeout delay (xs ++ ys) s ms (.error f) gone (left ++ ys) s' := by
  generalize ended : Except.error f = r at broken ⊢
  induction broken with
  | empty => cases ended
  | deleted run deleted _ ih => exact .deleted run deleted (ih ended)
  | failed run => exact .failed run

/-- Where there is nothing to delete nothing is asked. -/
theorem of_nothing (drains : Drains env timeout delay [] s ms r gone left s') :
    r = .ok () ∧ ms = [] ∧ left = [] ∧ s' = s := by
  cases drains
  exact ⟨rfl, rfl, rfl, rfl⟩

/-- Success means that all are gone. -/
theorem ok (drains : Drains env timeout delay xs s ms (.ok ()) gone left s') :
    gone = xs ∧ left = [] := by
  generalize ended : Except.ok () = r at drains
  induction drains with
  | empty => exact ⟨rfl, rfl⟩
  | deleted _ _ _ ih =>
    obtain ⟨rfl, rfl⟩ := ih ended
    exact ⟨rfl, rfl⟩
  | failed _ => cases ended

/-- A failure leaves the element that failed, and all behind it as they were. -/
theorem error (drains : Drains env timeout delay xs s ms (.error f) gone left s') :
    ∃ x rest, xs = gone ++ x :: rest ∧ left = x.begun :: rest := by
  generalize ended : Except.error f = r at drains
  induction drains with
  | empty => cases ended
  | @deleted y _ _ _ _ _ _ _ _ _ _ _ _ _ ih =>
    obtain ⟨x, rest, rfl, rfl⟩ := ih ended
    exact ⟨x, rest, rfl, rfl⟩
  | @failed x xs => exact ⟨x, xs, rfl, rfl⟩

/-- Nothing gets lost, nothing is gone twice and the order stays. -/
theorem whole (drains : Drains env timeout delay xs s ms r gone left s') :
    (gone ++ left).map Element.begun = xs.map Element.begun := by
  cases r with
  | ok _ =>
    obtain ⟨rfl, rfl⟩ := drains.ok
    rw [List.append_nil]
  | error f =>
    obtain ⟨x, rest, rfl, rfl⟩ := drains.error
    simp

/-- What holds of all elements, also when their deletion has begun, holds of those that are
left. -/
theorem forall_left {P : Element → Prop} (begun : ∀ x, P x → P x.begun)
    (drains : Drains env timeout delay xs s ms r gone left s') (all : ∀ x ∈ xs, P x) :
    ∀ x ∈ left, P x := by
  cases r with
  | ok _ =>
    rw [drains.ok.2]
    simp
  | error f =>
    obtain ⟨x, rest, rfl, rfl⟩ := drains.error
    rw [List.forall_mem_append, List.forall_mem_cons] at all
    exact List.forall_mem_cons.mpr ⟨begun x all.2.1, all.2.2⟩

/-- What does not stand in the first part stands behind it. -/
theorem behind {before after : List (Moment services σ)} {m : Moment services σ}
    (same : ms₁ ++ ms₂ = before ++ m :: after) (absent : m ∉ ms₁) :
    ∃ later, before = ms₁ ++ later ∧ ms₂ = later ++ m :: after := by
  rcases List.append_eq_append_iff.mp same with ⟨later, rfl, split⟩ | ⟨tail, rfl, split⟩
  · exact ⟨later, rfl, split⟩
  · cases tail with
    | nil => exact ⟨[], by simp, split.symm⟩
    | cons _ tail =>
      cases split
      exact absurd (by simp) absent

/-- What the deletions of some elements never come to has all of them gone before it. -/
theorem reached {P : Moment services σ → Prop} {before after : List (Moment services σ)}
    {m : Moment services σ}
    (avoid : ∀ x ∈ xs, ∀ s ms r x' s', Program.Runs env (x.delete timeout delay) s ms (r, x') s' →
      ∀ m ∈ ms, ¬ P m)
    (drains : Drains env timeout delay (xs ++ ys) s ms r gone left s')
    (here : ms = before ++ m :: after) (holds : P m) :
    ∃ prior s₁, prior <+: before ∧ Drains env timeout delay xs s prior (.ok ()) xs [] s₁ := by
  induction xs generalizing s ms gone before with
  | nil => exact ⟨[], s, List.nil_prefix, .empty⟩
  | cons x xs ih =>
    obtain ⟨first, others⟩ := List.forall_mem_cons.mp avoid
    cases drains with
    | failed run =>
      subst here
      exact absurd holds (first _ _ _ _ _ run m (by simp))
    | deleted run deleted rest =>
      obtain ⟨later, rfl, split⟩ := behind here fun mem => first _ _ _ _ _ run m mem holds
      obtain ⟨prior, s₁, short, drained⟩ := ih others rest split
      exact ⟨_, s₁, (List.prefix_append_right_inj _).mpr short, .deleted run deleted drained⟩

end Drains

namespace Deployment

variable {d d' : Deployment} {gone left : List Element}

/-- What a deployment holds, in the order in which it is deleted: its instances, its disks and its
stemcells, the last of each first. -/
def order (d : Deployment) : List Element :=
  d.instances.reverse.map .ofInstance ++ d.disks.reverse.map .ofDisk ++
    d.stemcells.reverse.map .ofStemcell

/-- What is deleted before anything of a kind. -/
def ahead (d : Deployment) : Resource → List Element
  | .vm => []
  | .disk => d.instances.reverse.map .ofInstance
  | .stemcell => d.instances.reverse.map .ofInstance ++ d.disks.reverse.map .ofDisk

theorem ahead_prefix (d : Deployment) (kind : Resource) : d.ahead kind <+: d.order := by
  cases kind with
  | vm => exact List.nil_prefix
  | disk => exact (List.prefix_append _ _).trans (List.prefix_append _ _)
  | stemcell => exact List.prefix_append _ _

theorem resource_of_mem_ahead {kind : Resource} {x : Element} (mem : x ∈ d.ahead kind) :
    x.resource ≠ kind := by
  cases kind with
  | vm => cases mem
  | disk =>
    obtain ⟨i, -, rfl⟩ := List.mem_map.mp mem
    exact nofun
  | stemcell =>
    rcases List.mem_append.mp mem with instances | disks
    · obtain ⟨i, -, rfl⟩ := List.mem_map.mp instances
      exact nofun
    · obtain ⟨disk, -, rfl⟩ := List.mem_map.mp disks
      exact nofun

/-- What holds of disks and stemcells holds of all elements if it holds of the instances. -/
theorem forall_order_iff {P : Element → Prop} (disks : ∀ disk, P (.ofDisk disk))
    (stemcells : ∀ image, P (.ofStemcell image)) :
    (∀ x ∈ d.order, P x) ↔ ∀ i ∈ d.instances, P (.ofInstance i) := by
  simp only [order, List.forall_mem_append, List.forall_mem_map, List.mem_reverse]
  constructor
  · exact fun all => all.1.1
  · exact fun instances => ⟨⟨instances, fun _ _ => disks _⟩, fun _ _ => stemcells _⟩

theorem alive_iff : (∀ x ∈ d.order, x.Alive) ↔ ∀ i ∈ d.instances, i.lifecycle ≠ .deleted :=
  forall_order_iff (P := Element.Alive) (fun _ => trivial) fun _ => trivial

theorem confined_iff : (∀ x ∈ d.order, x.Confined) ↔ ∀ i ∈ d.instances, i.vm.Confined :=
  forall_order_iff (P := Element.Confined) (fun _ => trivial) fun _ => trivial

theorem filterMap_instance? : d.order.filterMap Element.instance? = d.instances.reverse := by
  simp [order, List.filterMap_map, Function.comp_def, Element.instance?]

theorem filterMap_disk? : d.order.filterMap Element.disk? = d.disks.reverse := by
  simp [order, List.filterMap_map, Function.comp_def, Element.disk?]

theorem filterMap_stemcell? : d.order.filterMap Element.stemcell? = d.stemcells.reverse := by
  simp [order, List.filterMap_map, Function.comp_def, Element.stemcell?]

/-- The order says what a deployment holds. -/
theorem order_inj :
    d.order = d'.order ↔
      d.instances = d'.instances ∧ d.disks = d'.disks ∧ d.stemcells = d'.stemcells := by
  constructor
  · intro same
    have instances := congrArg (List.filterMap Element.instance?) same
    have disks := congrArg (List.filterMap Element.disk?) same
    have stemcells := congrArg (List.filterMap Element.stemcell?) same
    rw [filterMap_instance?, filterMap_instance?, List.reverse_inj] at instances
    rw [filterMap_disk?, filterMap_disk?, List.reverse_inj] at disks
    rw [filterMap_stemcell?, filterMap_stemcell?, List.reverse_inj] at stemcells
    exact ⟨instances, disks, stemcells⟩
  · rintro ⟨instances, disks, stemcells⟩
    simp only [order, instances, disks, stemcells]

/-- Deployments of the same elements in the same order that are as patient are the same. -/
theorem eq_of_order (same : d.order = d'.order) (pingTimeout : d.pingTimeout = d'.pingTimeout)
    (pingDelay : d.pingDelay = d'.pingDelay) : d = d' := by
  obtain ⟨instances, disks, stemcells⟩ := order_inj.mp same
  cases d
  cases d'
  rw [Deployment.mk.injEq]
  exact ⟨instances, disks, stemcells, pingTimeout, pingDelay⟩

theorem order_eq_nil_iff :
    d.order = [] ↔ d.instances = [] ∧ d.disks = [] ∧ d.stemcells = [] := by
  simp [order]

/-! ## One teardown -/

section Kinds

variable {α : Type} {deletes : α → ServiceProgram (Except Failure Unit × α)} (embed : α → Element)

/-- Elements of one kind are deleted in turn. -/
theorem drains_of_deleteInTurn {xs left : List α}
    (embeds : ∀ {x s ms r x' s'}, Program.Runs env (deletes x) s ms (r, x') s' →
      Program.Runs env ((embed x).delete timeout delay) s ms (r, embed x') s')
    (alive : ∀ x ∈ xs, (embed x).Alive)
    (run : Program.Runs env (deleteInTurn deletes xs) s ms (r, left) s') :
    ∃ gone, Drains env timeout delay (xs.map embed) s ms r gone (left.map embed) s' := by
  induction xs generalizing s ms with
  | nil =>
    obtain ⟨rfl, heq, rfl⟩ := Program.runs_pure_iff.mp run
    cases heq
    exact ⟨[], .empty⟩
  | cons x xs ih =>
    obtain ⟨here, others⟩ := List.forall_mem_cons.mp alive
    obtain ⟨⟨r₁, x'⟩, s₁, ms₁, ms₂, rfl, tried, later⟩ := Program.runs_bind_iff.mp run
    cases r₁ with
    | error f =>
      obtain ⟨rfl, heq, rfl⟩ := Program.runs_pure_iff.mp later
      cases heq
      have tried := embeds tried
      rw [List.append_nil, List.map_cons, List.map_cons, Element.begun_of_runs here tried]
      rw [Element.begun_of_runs here tried] at tried
      exact ⟨[], .failed tried⟩
    | ok _ =>
      obtain ⟨gone, drains⟩ := ih others later
      exact ⟨_, .deleted (embeds tried) (Element.deleted_of_runs here (embeds tried)) drains⟩

/-- Elements of one kind are deleted from the back. -/
theorem drains_of_deleteFromBack {xs left : List α}
    (embeds : ∀ {x s ms r x' s'}, Program.Runs env (deletes x) s ms (r, x') s' →
      Program.Runs env ((embed x).delete timeout delay) s ms (r, embed x') s')
    (alive : ∀ x ∈ xs, (embed x).Alive)
    (run : Program.Runs env (deleteFromBack deletes xs) s ms (r, left) s') :
    ∃ gone,
      Drains env timeout delay (xs.reverse.map embed) s ms r gone (left.reverse.map embed) s' := by
  obtain ⟨⟨_, left₀⟩, heq, ran⟩ := Program.runs_map_iff.mp run
  cases heq
  rw [List.reverse_reverse]
  exact drains_of_deleteInTurn embed embeds (fun x mem => alive x (List.mem_reverse.mp mem)) ran

end Kinds

theorem runs_ofDisk {disk disk' : Disk}
    (run : Program.Runs env (deleteDisk disk) s ms (r, disk') s') :
    Program.Runs env ((Element.ofDisk disk).delete timeout delay) s ms (r, .ofDisk disk') s' := by
  obtain ⟨_, heq, ran⟩ := Program.runs_map_iff.mp run
  cases heq
  exact Program.runs_map_iff.mpr ⟨_, rfl, ran⟩

theorem runs_ofStemcell {image image' : Stemcell}
    (run : Program.Runs env (deleteStemcell image) s ms (r, image') s') :
    Program.Runs env ((Element.ofStemcell image).delete timeout delay) s ms
      (r, .ofStemcell image') s' := by
  obtain ⟨_, heq, ran⟩ := Program.runs_map_iff.mp run
  cases heq
  exact Program.runs_map_iff.mpr ⟨_, rfl, ran⟩

/-- A teardown goes through the elements in their order, and what is left of them is the deployment
that it leaves. -/
theorem drains_of_runs (alive : ∀ i ∈ d.instances, i.lifecycle ≠ .deleted)
    (run : Program.Runs env d.delete s ms (r, d') s') :
    (∃ gone, Drains env d.pingTimeout d.pingDelay d.order s ms r gone d'.order s') ∧
      d'.pingTimeout = d.pingTimeout ∧ d'.pingDelay = d.pingDelay := by
  unfold delete at run
  obtain ⟨⟨r₁, instances⟩, s₁, ms₁, _, rfl, first, later⟩ := Program.runs_bind_iff.mp run
  obtain ⟨gone₁, machines⟩ := drains_of_deleteFromBack .ofInstance
    (fun run => Element.runs_ofInstance_iff.mpr ⟨_, rfl, run⟩) alive first
  cases r₁ with
  | error f =>
    obtain ⟨rfl, heq, rfl⟩ := Program.runs_pure_iff.mp later
    cases heq
    rw [List.append_nil]
    exact ⟨⟨gone₁, machines.stop.stop⟩, rfl, rfl⟩
  | ok _ =>
    obtain ⟨⟨r₂, disks⟩, s₂, ms₂, _, rfl, second, last⟩ := Program.runs_bind_iff.mp later
    obtain ⟨gone₂, disksGo⟩ := drains_of_deleteFromBack .ofDisk runs_ofDisk
      (fun _ _ => trivial) second
    have through := machines.append disksGo
    obtain rfl : instances = [] := by simpa using machines.ok.2
    cases r₂ with
    | error f =>
      obtain ⟨rfl, heq, rfl⟩ := Program.runs_pure_iff.mp last
      cases heq
      rw [List.append_nil]
      exact ⟨⟨_, through.stop⟩, rfl, rfl⟩
    | ok _ =>
      obtain ⟨⟨r₃, stemcells⟩, heq, third⟩ := Program.runs_map_iff.mp last
      cases heq
      obtain ⟨gone₃, stemcellsGo⟩ := drains_of_deleteFromBack .ofStemcell runs_ofStemcell
        (fun _ _ => trivial) third
      obtain rfl : disks = [] := by simpa using disksGo.ok.2
      rw [← List.append_assoc]
      exact ⟨⟨_, through.append stemcellsGo⟩, rfl, rfl⟩

/-- Before a teardown has anything of a kind deleted, all that is ahead of that kind is gone. -/
theorem ahead_drained (alive : ∀ x ∈ d.order, x.Alive) (confined : ∀ x ∈ d.order, x.Confined)
    (drains : Drains env timeout delay d.order s ms r gone left s') {kind : Resource}
    {before after : List (Moment services σ)} {m : Moment services σ}
    (here : ms = before ++ m :: after) (deletes : m.question.deletes? = some kind) :
    ∃ prior s₁, prior <+: before ∧
      Drains env timeout delay (d.ahead kind) s prior (.ok ()) (d.ahead kind) [] s₁ := by
  have held {x : Element} (mem : x ∈ d.ahead kind) : x ∈ d.order :=
    (d.ahead_prefix kind).subset mem
  obtain ⟨behind, split⟩ := d.ahead_prefix kind
  rw [← split] at drains
  refine drains.reached (P := fun m => m.question.deletes? = some kind) ?_ here deletes
  intro x mem s ms r x' s' run m asked deleted
  have only := Element.deletesOnly_of_runs (alive x (held mem)) (confined x (held mem)) run m asked
  exact resource_of_mem_ahead mem (only kind deleted).symm

end Deployment

end VmDeploy
