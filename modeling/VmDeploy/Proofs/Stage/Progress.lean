import VmDeploy.Proofs.Stage.Brackets

/-!
# Steps under way

At a moment of a run some steps were performed and others are running, each of them inside the one
that started before it (`StepProgress`). The notes of that moment are those on the steps that were
performed, and one on the start of each step that is running (`StepProgress.events`).

What was noted last of the steps of a name is the subject of `StepProgress.last`. If one of them is
running behind which none has started, its start was noted last. Otherwise it is the end of a step,
and all steps of the name that started behind the start of that one are inside it.
-/

set_option autoImplicit false

namespace VmDeploy

open StepCourse (allOf eventsOf)

namespace StepCourse

variable {c d : StepCourse} {cs : List StepCourse}

theorem allOf_singleton : allOf [c] = c :: allOf c.inner := by
  rw [allOf_cons, allOf, List.append_nil]

/-- A step that has steps inside it has those inside these. -/
theorem mem_allOf_of_mem (mem : c ∈ allOf cs) (inside : d ∈ allOf [c]) : d ∈ allOf cs := by
  induction cs using forest_induction with
  | nil => cases mem
  | cons e rest inner others =>
    rw [allOf_cons, List.mem_cons, List.mem_append] at mem ⊢
    rcases mem with rfl | mem | mem
    · rw [allOf_singleton, List.mem_cons] at inside
      exact inside.imp_right .inl
    · exact .inr (.inl (inner mem))
    · exact .inr (.inr (others mem))

/-- The start of a step is noted no later than its end. -/
theorem opening_mem (mem : d ∈ allOf [c]) (other : d ≠ c) : d.opening ∈ eventsOf c.inner := by
  rw [allOf_singleton, List.mem_cons] at mem
  have noted : d.opening ∈ (eventsOf c.inner).filter (·.state = .started) := by
    rw [filter_started]
    exact List.mem_map_of_mem (mem.resolve_left other)
  exact List.mem_of_mem_filter noted

/-- Among steps that were performed, behind the end of one of a name nothing is noted of that name,
unless no step has the name. -/
theorem last_bracket (name : String) (cs : List StepCourse) :
    (∀ e ∈ eventsOf cs, e.step ≠ name) ∨
      ∃ c ∈ allOf cs, c.name = name ∧
        ∃ before after, eventsOf cs = before ++ c.events ++ after ∧ ∀ e ∈ after, e.step ≠ name := by
  induction cs using forest_induction with
  | nil => exact .inl fun e mem => nomatch mem
  | cons c rest inside others =>
    rcases others with silent | ⟨d, mem, named, before, after, split, silent⟩
    · by_cases here : c.name = name
      · refine .inr ⟨c, ?_, here, [], eventsOf rest, by rw [List.nil_append, eventsOf], silent⟩
        rw [allOf_cons]
        exact List.mem_cons_self
      rcases inside with within | ⟨d, mem, named, before, after, split, within⟩
      · refine .inl fun e mem => ?_
        rw [eventsOf_cons, List.mem_cons, List.mem_append, List.mem_cons] at mem
        rcases mem with rfl | mem | rfl | mem
        · exact here
        · exact within e mem
        · exact here
        · exact silent e mem
      · refine .inr ⟨d, ?_, named, c.opening :: before, after ++ c.closing :: eventsOf rest, ?_, ?_⟩
        · rw [allOf_cons]
          exact List.mem_cons_of_mem _ (List.mem_append_left _ mem)
        · rw [eventsOf_cons, split]
          simp
        · intro e mem
          rw [List.mem_append, List.mem_cons] at mem
          rcases mem with mem | rfl | mem
          · exact within e mem
          · exact here
          · exact silent e mem
    · refine .inr ⟨d, ?_, named, c.events ++ before, after, ?_, silent⟩
      · rw [allOf_cons]
        exact List.mem_cons_of_mem _ (List.mem_append_right _ mem)
      · rw [eventsOf, split]
        simp

end StepCourse

/-! ## Progress -/

/-- How far steps have come. -/
inductive StepProgress where
  /-- These were performed, and no other has started. -/
  | performed (done : List StepCourse)
  /-- Behind these that were performed a step is running, inside which others have come so far. -/
  | running (done : List StepCourse) (name : String) (index : Nat) (inside : StepProgress)

namespace StepProgress

/-- What was noted. -/
def events : StepProgress → List StepEvent
  | .performed done => eventsOf done
  | .running done name index inside =>
    eventsOf done ++ ⟨name, index, .started, none⟩ :: inside.events

/-- The steps that have ended. -/
def ended : StepProgress → List StepCourse
  | .performed done => allOf done
  | .running done _ _ inside => allOf done ++ inside.ended

/-- The numbers of the steps that are running, the outermost first. -/
def underWay : StepProgress → List Nat
  | .performed _ => []
  | .running _ _ index inside => index :: inside.underWay

/-- The numbers of all steps, in the order in which they started. -/
def numbers : StepProgress → List Nat
  | .performed done => (allOf done).map StepCourse.index
  | .running done _ index inside => (allOf done).map StepCourse.index ++ index :: inside.numbers

/-- Steps that were performed before. -/
def behind (done : List StepCourse) : StepProgress → StepProgress
  | .performed done' => .performed (done ++ done')
  | .running done' name index inside => .running (done ++ done') name index inside

variable {p : StepProgress} {c d : StepCourse} {done : List StepCourse} {name : String}

theorem events_behind : (p.behind done).events = eventsOf done ++ p.events := by
  cases p <;> simp [behind, events, StepCourse.eventsOf_append]

theorem numbers_behind :
    (p.behind done).numbers = (allOf done).map StepCourse.index ++ p.numbers := by
  cases p <;> simp [behind, numbers, StepCourse.allOf_append]

/-- A step has ended or is running. -/
theorem numbers_perm : p.numbers.Perm (p.ended.map StepCourse.index ++ p.underWay) := by
  induction p with
  | performed done => simp [numbers, ended, underWay]
  | running done name index inside ih =>
    rw [numbers, ended, underWay, List.map_append, List.append_assoc]
    exact ((ih.cons index).trans List.perm_middle.symm).append_left _

/-- The end of a step is noted. -/
theorem closing_mem (mem : c ∈ p.ended) : c.closing ∈ p.events := by
  have noted {cs : List StepCourse} (mem : c ∈ allOf cs) : c.closing ∈ eventsOf cs := by
    refine (StepCourse.events_infix mem).subset ?_
    rw [StepCourse.events_eq]
    simp
  induction p with
  | performed done => exact noted mem
  | running done name index inside ih =>
    rw [ended, List.mem_append] at mem
    rw [events, List.mem_append]
    exact mem.imp noted fun mem => List.mem_cons_of_mem _ (ih mem)

/-- No other ends are noted. -/
theorem exists_of_mem_events {e : StepEvent} (mem : e ∈ p.events) (later : e.state ≠ .started) :
    ∃ c ∈ p.ended, e = c.closing := by
  have closes {cs : List StepCourse} (mem : e ∈ eventsOf cs) : ∃ c ∈ allOf cs, e = c.closing := by
    obtain ⟨c, mem, rfl | closed⟩ := StepCourse.exists_of_mem_eventsOf mem
    · exact absurd rfl later
    · exact ⟨c, mem, closed⟩
  induction p with
  | performed done => exact closes mem
  | running done name index inside ih =>
    rw [events, List.mem_append, List.mem_cons] at mem
    rw [ended]
    rcases mem with mem | rfl | mem
    · obtain ⟨c, mem, closed⟩ := closes mem
      exact ⟨c, List.mem_append_left _ mem, closed⟩
    · exact absurd rfl later
    · obtain ⟨c, mem, closed⟩ := ih mem
      exact ⟨c, List.mem_append_right _ mem, closed⟩

theorem mem_ended_of_mem (mem : c ∈ p.ended) (inside : d ∈ allOf [c]) : d ∈ p.ended := by
  induction p with
  | performed done => exact StepCourse.mem_allOf_of_mem mem inside
  | running done name index _ ih =>
    rw [ended, List.mem_append] at mem ⊢
    exact mem.imp (StepCourse.mem_allOf_of_mem · inside) ih

/-- What was noted last of the steps of a name. -/
inductive Last (name : String) (p : StepProgress) : Prop
  /-- None has started. -/
  | never (silent : ∀ e ∈ p.events, e.step ≠ name)
  /-- The end of a step. -/
  | ended (c : StepCourse) (before after : List StepEvent) (mem : c ∈ p.ended)
      (named : c.name = name) (noted : p.events = before ++ c.events ++ after)
      (silent : ∀ e ∈ after, e.step ≠ name)
  /-- The start of a step that is running. -/
  | underWay (i : Nat) (before after : List StepEvent) (mem : i ∈ p.underWay)
      (noted : p.events = before ++ ⟨name, i, .started, none⟩ :: after)
      (silent : ∀ e ∈ after, e.step ≠ name)

theorem last (name : String) (p : StepProgress) : p.Last name := by
  induction p with
  | performed done =>
    rcases StepCourse.last_bracket name done with
      silent | ⟨c, mem, named, before, after, split, silent⟩
    · exact .never silent
    · exact .ended c before after mem named split silent
  | running done name' index inside ih =>
    let start : StepEvent := ⟨name', index, .started, none⟩
    have noted {before rest : List StepEvent} (split : inside.events = before ++ rest) :
        (StepProgress.running done name' index inside).events
          = (eventsOf done ++ start :: before) ++ rest := by
      rw [events, split]
      simp [start]
    cases ih with
    | ended c before after mem named split silent =>
      rw [List.append_assoc] at split
      exact .ended c _ after (List.mem_append_right _ mem) named
        ((noted split).trans (List.append_assoc _ _ _).symm) silent
    | underWay i before after mem split silent =>
      exact .underWay i _ after (List.mem_cons_of_mem _ mem) (noted split) silent
    | never within =>
      by_cases here : name' = name
      · exact .underWay index (eventsOf done) inside.events List.mem_cons_self
          (by rw [events, here]) within
      -- Nothing is noted of the name behind the steps that were performed before.
      have silent (e : StepEvent) (mem : e ∈ start :: inside.events) : e.step ≠ name := by
        rcases List.mem_cons.mp mem with rfl | mem
        · exact here
        · exact within e mem
      rcases StepCourse.last_bracket name done with
        none | ⟨c, mem, named, before, after, split, behind⟩
      · exact .never fun e mem => (List.mem_append.mp mem).elim (none e) (silent e)
      · refine .ended c before (after ++ start :: inside.events) (List.mem_append_left _ mem)
          named ?_ fun e mem => (List.mem_append.mp mem).elim (behind e) (silent e)
        rw [events, split]
        simp [start]

end StepProgress

/-! ## Progress on a stage -/

/-- On a stage steps have come so far: they are numbered from its next number on, in the order in
which they started, and noted behind what was noted before. -/
structure StageLog.Stands (log : StageLog) (progress : StepProgress) (log' : StageLog) : Prop where
  events : log'.events = log.events ++ progress.events
  numbers : progress.numbers = List.range' (log.steps + 1) progress.numbers.length

namespace StageLog.Stands

variable {log log₁ log' : StageLog} {p : StepProgress} {cs : List StepCourse}

theorem of_advances (advances : log.Advances cs log') : log.Stands (.performed cs) log' := by
  refine ⟨advances.events, ?_⟩
  rw [StepProgress.numbers, List.length_map]
  exact advances.numbers

/-- Steps were performed before. -/
theorem behind (first : log.Advances cs log₁) (second : log₁.Stands p log') :
    log.Stands (p.behind cs) log' := by
  refine ⟨?events, ?numbers⟩
  case events => rw [second.events, first.events, StepProgress.events_behind, List.append_assoc]
  case numbers =>
    rw [StepProgress.numbers_behind, first.numbers, second.numbers, first.steps, List.length_append,
      List.length_range', List.length_range', ← List.range'_append_1, Nat.add_right_comm]

/-- Inside a step that is running. -/
theorem inside {name : String} (within : (log.start name).2.Stands p log') :
    log.Stands (.running [] name (log.steps + 1) p) log' := by
  refine ⟨?events, ?numbers⟩
  case events =>
    rw [within.events]
    simp [StageLog.start, StepProgress.events, eventsOf]
  case numbers =>
    show _ :: p.numbers = List.range' (log.steps + 1) (p.numbers.length + 1)
    rw [List.range'_succ]
    exact congrArg _ within.numbers

end StageLog.Stands

end VmDeploy
