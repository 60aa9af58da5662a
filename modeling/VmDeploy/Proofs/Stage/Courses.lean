import Mathlib.Data.List.Forall2
import VmDeploy.Stage.Tree

/-!
# Courses of steps

Steps that are performed with the steps inside them have a course (`StepCourse`): which of them were
performed, how they were numbered, and how their bodies ended. The notes on them are nested as the
steps are (`StepCourse.eventsOf`): there are two for each step, and those on the steps inside it
stand between them.

`StepTree.Follows` says which courses trees of steps may take. A step ends as it is meant to,
whatever was skipped inside it, unless a step inside it failed; then nothing is performed behind
that, and the step fails in the same way.
-/

set_option autoImplicit false

namespace VmDeploy

/-! ## Courses of steps -/

/-- A step that was performed: its number, the steps that were performed inside it, and how its
body ended. -/
inductive StepCourse where
  | step (name : String) (index : Nat) (inner : List StepCourse) (ended : StepEnd Unit)

namespace StepCourse

def name : StepCourse → String
  | .step name _ _ _ => name

def index : StepCourse → Nat
  | .step _ index _ _ => index

def inner : StepCourse → List StepCourse
  | .step _ _ inner _ => inner

def ended : StepCourse → StepEnd Unit
  | .step _ _ _ ended => ended

/-- What is noted when a step starts. -/
def opening (c : StepCourse) : StepEvent := ⟨c.name, c.index, .started, none⟩

/-- What is noted when a step ends. -/
def closing (c : StepCourse) : StepEvent := ⟨c.name, c.index, c.ended.note.1, c.ended.note.2⟩

mutual

/-- A step and all steps inside it, in the order in which they started. -/
def all : StepCourse → List StepCourse
  | .step name index inner ended => .step name index inner ended :: allOf inner

@[inherit_doc all]
def allOf : List StepCourse → List StepCourse
  | [] => []
  | c :: cs => c.all ++ allOf cs

end

mutual

/-- The notes on a step. Those on the steps inside it stand between its own two. -/
def events : StepCourse → List StepEvent
  | .step name index inner ended =>
    let c : StepCourse := .step name index inner ended
    c.opening :: eventsOf inner ++ [c.closing]

@[inherit_doc events]
def eventsOf : List StepCourse → List StepEvent
  | [] => []
  | c :: cs => c.events ++ eventsOf cs

end

/-- What holds of no steps, and of steps if it holds of those inside the first and of the others,
holds of any steps. -/
@[elab_as_elim]
theorem forest_induction {motive : List StepCourse → Prop} (nil : motive [])
    (cons : ∀ c rest, motive c.inner → motive rest → motive (c :: rest)) (cs : List StepCourse) :
    motive cs :=
  StepCourse.rec_1 (motive_1 := fun c => ∀ rest, motive rest → motive (c :: rest))
    (motive_2 := motive)
    (fun name index inner ended inside rest others =>
      cons (.step name index inner ended) rest inside others)
    nil (fun _ rest first others => first rest others) cs

variable {c d : StepCourse} {cs ds : List StepCourse}

theorem allOf_cons : allOf (c :: cs) = c :: (allOf c.inner ++ allOf cs) := by
  cases c
  rw [allOf, all]
  rfl

theorem events_eq : c.events = c.opening :: (eventsOf c.inner ++ [c.closing]) := by
  cases c
  rw [events]
  rfl

theorem eventsOf_cons : eventsOf (c :: cs) =
    c.opening :: (eventsOf c.inner ++ c.closing :: eventsOf cs) := by
  rw [eventsOf, events_eq]
  simp

theorem allOf_append : allOf (cs ++ ds) = allOf cs ++ allOf ds := by
  induction cs with
  | nil => rfl
  | cons c cs ih => simp [allOf_cons, ih]

theorem eventsOf_append : eventsOf (cs ++ ds) = eventsOf cs ++ eventsOf ds := by
  induction cs with
  | nil => rfl
  | cons c cs ih => simp [eventsOf_cons, ih]

/-- The notes on a step stand together. -/
theorem events_infix (mem : c ∈ allOf cs) : c.events <:+: eventsOf cs := by
  induction cs using forest_induction with
  | nil => cases mem
  | cons d rest inside others =>
    rw [eventsOf]
    rw [allOf_cons, List.mem_cons, List.mem_append] at mem
    rcases mem with rfl | mem | mem
    · exact List.infix_append' [] _ _
    · refine ((inside mem).trans ?_).trans (List.infix_append' [] _ _)
      rw [events_eq]
      exact ⟨[d.opening], [d.closing], by simp⟩
    · exact (others mem).trans (List.suffix_append _ _).isInfix

theorem closing_state_ne : c.closing.state ≠ .started := by
  rw [closing]
  cases c.ended <;> exact fun same => nomatch same

/-- Steps are noted in the order in which they start. -/
theorem filter_started :
    (eventsOf cs).filter (·.state = .started) = (allOf cs).map opening := by
  induction cs using forest_induction with
  | nil => rfl
  | cons c rest inside others =>
    have opened : c.opening.state = .started := rfl
    simp [eventsOf_cons, allOf_cons, opened, closing_state_ne, inside, others]

/-- There are two notes on each step. -/
theorem countP_index (i : Nat) :
    (eventsOf cs).countP (·.index = i) = 2 * (allOf cs).countP (·.index = i) := by
  induction cs using forest_induction with
  | nil => rfl
  | cons c rest inside others =>
    have own : c.opening.index = c.index ∧ c.closing.index = c.index := ⟨rfl, rfl⟩
    by_cases here : c.index = i
    · simp [eventsOf_cons, allOf_cons, inside, others, own, here]
      omega
    · simp [eventsOf_cons, allOf_cons, inside, others, own, here]
      omega

/-- There are no other notes. -/
theorem exists_of_mem_eventsOf {e : StepEvent} (mem : e ∈ eventsOf cs) :
    ∃ c ∈ allOf cs, e = c.opening ∨ e = c.closing := by
  induction cs using forest_induction with
  | nil => cases mem
  | cons c rest inside others =>
    rw [eventsOf_cons, List.mem_cons, List.mem_append, List.mem_cons] at mem
    rw [allOf_cons]
    rcases mem with opened | mem | closed | mem
    · exact ⟨c, List.mem_cons_self, .inl opened⟩
    · obtain ⟨d, mem, noted⟩ := inside mem
      exact ⟨d, List.mem_cons_of_mem _ (List.mem_append_left _ mem), noted⟩
    · exact ⟨c, List.mem_cons_self, .inr closed⟩
    · obtain ⟨d, mem, noted⟩ := others mem
      exact ⟨d, List.mem_cons_of_mem _ (List.mem_append_right _ mem), noted⟩

/-- Where numbers are given once the two notes of a number are those on its step. -/
theorem filter_index (numbers : ((allOf cs).map index).Nodup) (mem : c ∈ allOf cs) :
    (eventsOf cs).filter (·.index = c.index) = [c.opening, c.closing] := by
  have once : (allOf cs).countP (·.index = c.index) = 1 := by
    have counted : ((allOf cs).map index).count c.index = 1 :=
      numbers.count.trans (if_pos (List.mem_map_of_mem mem))
    rw [List.count, List.countP_map] at counted
    rw [← counted]
    exact List.countP_congr fun d _ => by simp
  have two : ((eventsOf cs).filter (·.index = c.index)).length = 2 := by
    rw [← List.countP_eq_length_filter, countP_index, once]
  obtain ⟨before, after, split⟩ := events_infix mem
  have own : c.opening.index = c.index ∧ c.closing.index = c.index := ⟨rfl, rfl⟩
  rw [← split, events_eq] at two ⊢
  simp only [List.filter_append, List.filter_cons, own, decide_true, if_true, List.filter_nil,
    List.length_append, List.length_cons, List.length_nil] at two ⊢
  have none (es : List StepEvent) (empty : (es.filter (·.index = c.index)).length = 0) :
      es.filter (·.index = c.index) = [] := List.length_eq_zero_iff.mp empty
  rw [none before (by omega), none after (by omega), none (eventsOf c.inner) (by omega)]
  rfl

end StepCourse

open StepCourse (allOf eventsOf)

/-! ## Courses of trees of steps -/

namespace StepTree

def name : StepTree → String
  | .step name _ _ => name

def inner : StepTree → List StepTree
  | .step _ inner _ => inner

/-- How a step is meant to end. -/
def ending : StepTree → StepEnd Unit
  | .step _ _ ending => ending

mutual

/-- A step and all steps inside it. -/
def parts : StepTree → List StepTree
  | .step name inner ending => .step name inner ending :: partsOf inner

@[inherit_doc parts]
def partsOf : List StepTree → List StepTree
  | [] => []
  | tree :: rest => tree.parts ++ partsOf rest

end

theorem partsOf_cons {tree : StepTree} {rest : List StepTree} :
    partsOf (tree :: rest) = tree :: (partsOf tree.inner ++ partsOf rest) := by
  cases tree
  rw [partsOf, parts]
  rfl

/-- How the body of a step ends that performed the steps inside it: as it is meant to, unless one of
them failed. -/
def endOf (ending : StepEnd Unit) : Except Failure Unit → StepEnd Unit
  | .ok () => ending
  | .error f => .failed f

mutual

/-- A step takes a course. -/
inductive Follows : StepTree → StepCourse → Prop
  | step {name : String} {inner : List StepTree} {ending : StepEnd Unit} {index : Nat}
      {courses : List StepCourse} {result : Except Failure Unit}
      (inside : FollowsInOrder inner courses result) :
      Follows (.step name inner ending) (.step name index courses (endOf ending result))

/-- Steps are performed one after the other, up to the first that returns an error. -/
inductive FollowsInOrder : List StepTree → List StepCourse → Except Failure Unit → Prop
  | nil : FollowsInOrder [] [] (.ok ())
  | next {tree : StepTree} {c : StepCourse} {rest : List StepTree} {cs : List StepCourse}
      {value : Option Unit} {result : Except Failure Unit} (first : Follows tree c)
      (returned : c.ended.result = .ok value) (others : FollowsInOrder rest cs result) :
      FollowsInOrder (tree :: rest) (c :: cs) result
  | stop {tree : StepTree} {c : StepCourse} {rest : List StepTree} {f : Failure}
      (first : Follows tree c) (returned : c.ended.result = .error f) :
      FollowsInOrder (tree :: rest) [c] (.error f)

end

variable {tree : StepTree} {trees : List StepTree} {c d : StepCourse} {cs : List StepCourse}
  {result : Except Failure Unit}

theorem Follows.inside (follows : Follows tree c) :
    ∃ result, FollowsInOrder tree.inner c.inner result ∧ c.ended = endOf tree.ending result := by
  cases follows with
  | step inside => exact ⟨_, inside, rfl⟩

/-- If a step among those that are performed fails, they are broken off with its failure. -/
theorem FollowsInOrder.breaks {f : Failure} (follows : FollowsInOrder trees cs result)
    (mem : c ∈ allOf cs) (failed : c.ended = .failed f) : result = .error f := by
  induction cs using StepCourse.forest_induction generalizing trees result with
  | nil => cases mem
  | cons d rest inside others =>
    rw [StepCourse.allOf_cons, List.mem_cons, List.mem_append, ← or_assoc] at mem
    have own {tree : StepTree} (first : Follows tree d) (mem : c = d ∨ c ∈ allOf d.inner) :
        d.ended.result = .error f := by
      rcases mem with rfl | mem
      · rw [failed]
        rfl
      · obtain ⟨_, within, ended⟩ := first.inside
        rw [ended, inside within mem]
        rfl
    cases follows with
    | next first returned later =>
      rcases mem with mem | mem
      · cases returned.symm.trans (own first mem)
      · exact others later mem
    | stop first returned =>
      rcases mem with mem | mem
      · cases returned.symm.trans (own first mem)
        rfl
      · cases mem

/-- Every step that is performed takes a course of its own. -/
theorem FollowsInOrder.each (follows : FollowsInOrder trees cs result) (mem : c ∈ allOf cs) :
    ∃ tree ∈ partsOf trees, Follows tree c := by
  induction cs using StepCourse.forest_induction generalizing trees result with
  | nil => cases mem
  | cons d rest inside others =>
    rw [StepCourse.allOf_cons, List.mem_cons, List.mem_append, ← or_assoc] at mem
    have own {tree : StepTree} {later : List StepTree} (first : Follows tree d)
        (mem : c = d ∨ c ∈ allOf d.inner) :
        ∃ part ∈ partsOf (tree :: later), Follows part c := by
      rw [partsOf_cons]
      rcases mem with rfl | mem
      · exact ⟨tree, List.mem_cons_self, first⟩
      · obtain ⟨_, within, -⟩ := first.inside
        obtain ⟨part, among, follows⟩ := inside within mem
        exact ⟨part, List.mem_cons_of_mem _ (List.mem_append_left _ among), follows⟩
    cases follows with
    | next first returned later =>
      rcases mem with mem | mem
      · exact own first mem
      · obtain ⟨part, among, follows⟩ := others later mem
        rw [partsOf_cons]
        exact ⟨part, List.mem_cons_of_mem _ (List.mem_append_right _ among), follows⟩
    | stop first returned =>
      rcases mem with mem | mem
      · exact own first mem
      · cases mem

/-- Where no step fails all are performed. -/
theorem FollowsInOrder.whole (follows : FollowsInOrder trees cs result)
    (fine : ∀ c ∈ cs, ∀ f, c.ended ≠ .failed f) :
    result = .ok () ∧ cs.length = trees.length := by
  induction cs generalizing trees result with
  | nil =>
    cases follows
    exact ⟨rfl, rfl⟩
  | cons d rest others =>
    obtain ⟨here, fine⟩ := List.forall_mem_cons.mp fine
    cases follows with
    | next first returned later =>
      obtain ⟨ended, length⟩ := others later fine
      exact ⟨ended, congrArg (· + 1) length⟩
    | stop first returned =>
      cases ended : d.ended with
      | failed f => exact absurd ended (here f)
      | finished _ | skipped _ =>
        rw [ended] at returned
        cases returned

/-- Every step takes a course of its own, also where steps are performed although others failed. -/
theorem exists_follows (follows : List.Forall₂ Follows trees cs) (mem : c ∈ allOf cs) :
    ∃ tree ∈ partsOf trees, Follows tree c := by
  induction follows with
  | nil => cases mem
  | @cons tree d rest ds first _ others =>
    obtain ⟨result, alone⟩ : ∃ result, FollowsInOrder [tree] [d] result := by
      cases returned : d.ended.result with
      | ok value => exact ⟨_, .next first returned .nil⟩
      | error f => exact ⟨_, .stop first returned⟩
    rw [allOf, List.mem_append] at mem
    rw [partsOf]
    rcases mem with mem | mem
    · obtain ⟨part, among, follows⟩ := alone.each (c := c) (by rwa [allOf, allOf, List.append_nil])
      rw [partsOf, partsOf, List.append_nil] at among
      exact ⟨part, List.mem_append_left _ among, follows⟩
    · obtain ⟨part, among, follows⟩ := others mem
      exact ⟨part, List.mem_append_right _ among, follows⟩

end StepTree

end VmDeploy
