import VmDeploy.Proofs.Stage.Courses

/-!
# The notes on a stage are brackets

Steps that are performed on a stage take a course, and the notes on the stage are those of the
course and nothing else (`StageLog.Advances`). So each step has the number of its start and two
notes, and the notes between these two are those on the steps inside it (`StageLog.Bracketed`). They
tell of each step how its body ended (`StepTree.history`).
-/

set_option autoImplicit false

namespace VmDeploy

open StepCourse (allOf eventsOf)

/-! ## Courses on a stage -/

/-- On a stage these steps were performed: they were numbered from its next number on, in the order
in which they started, and noted behind what was noted before. -/
structure StageLog.Advances (log : StageLog) (courses : List StepCourse) (log' : StageLog) :
    Prop where
  name : log'.name = log.name
  steps : log'.steps = log.steps + (allOf courses).length
  events : log'.events = log.events ++ eventsOf courses
  numbers : (allOf courses).map StepCourse.index
    = List.range' (log.steps + 1) (allOf courses).length

namespace StageLog.Advances

variable {log log₁ log' : StageLog} {cs ds : List StepCourse}

theorem refl : Advances log [] log :=
  ⟨rfl, rfl, (List.append_nil _).symm, rfl⟩

/-- Steps are performed one after the other. -/
theorem trans (first : Advances log cs log₁) (second : Advances log₁ ds log') :
    Advances log (cs ++ ds) log' := by
  refine ⟨second.name.trans first.name, ?steps, ?events, ?numbers⟩
  case steps =>
    rw [second.steps, first.steps, StepCourse.allOf_append, List.length_append, Nat.add_assoc]
  case events =>
    rw [second.events, first.events, StepCourse.eventsOf_append, List.append_assoc]
  case numbers =>
    rw [StepCourse.allOf_append, List.map_append, first.numbers, second.numbers, first.steps,
      List.length_append, ← List.range'_append_1, Nat.add_right_comm]

/-- A step is noted before and behind the steps inside it. -/
theorem step {name : String} {ended : StepEnd Unit}
    (inside : Advances (log.start name).2 cs log₁) :
    Advances log [.step name (log.steps + 1) cs ended]
      (log₁.finish name (log.steps + 1) ended.note.1 ended.note.2) := by
  refine ⟨inside.name, ?steps, ?events, ?numbers⟩
  case steps =>
    rw [StepCourse.allOf_cons, List.length_cons, List.length_append, ← Nat.add_assoc,
      Nat.add_right_comm]
    exact inside.steps
  case events =>
    rw [StepCourse.eventsOf_cons]
    show log₁.events ++ _ = _
    rw [inside.events]
    simp [StageLog.start, StepCourse.opening, StepCourse.closing, StepCourse.name,
      StepCourse.index, StepCourse.inner, StepCourse.ended, eventsOf]
  case numbers =>
    rw [StepCourse.allOf_cons, List.map_cons, List.length_cons, List.range'_succ]
    show _ :: (allOf cs ++ []).map _ = _ :: List.range' _ (allOf cs ++ []).length
    rw [List.append_nil]
    exact congrArg _ inside.numbers

end StageLog.Advances

namespace StepTree

/-- A step is performed around its body. -/
theorem run_performStep {α : Type} {name : String} {body : StateM StageLog (StepEnd α)}
    {log log' : StageLog} {ended : StepEnd α}
    (inside : body.run (log.start name).2 = (ended, log')) :
    (performStep name body).run log = (ended.result,
      log'.finish name (log.steps + 1) ended.note.1 ended.note.2) := by
  show (let (ended, log') := body.run (log.start name).2
    (ended.result, log'.finish name (log.steps + 1) ended.note.1 ended.note.2)) = _
  rw [inside]

/-- The body of a step performs the steps inside it. -/
theorem run_perform_step {name : String} {inner : List StepTree} {ending : StepEnd Unit}
    {log log' : StageLog} {result : Except Failure Unit}
    (inside : (performAll inner).run (log.start name).2 = (result, log')) :
    (perform (.step name inner ending)).run log = ((endOf ending result).result,
      log'.finish name (log.steps + 1) (endOf ending result).note.1
        (endOf ending result).note.2) := by
  rw [perform]
  refine run_performStep ?_
  rw [StateT.run_bind, inside]
  cases result <;> rfl

/-- Steps are performed one after the other. -/
theorem run_performAll_ok {tree : StepTree} {rest : List StepTree} {log log' : StageLog}
    {value : Option Unit} (first : tree.perform.run log = (.ok value, log')) :
    (performAll (tree :: rest)).run log = (performAll rest).run log' := by
  rw [performAll, StateT.run_bind, first]
  rfl

/-- The first that fails is the last. -/
theorem run_performAll_error {tree : StepTree} {rest : List StepTree} {log log' : StageLog}
    {f : Failure} (first : tree.perform.run log = (.error f, log')) :
    (performAll (tree :: rest)).run log = (.error f, log') := by
  rw [performAll, StateT.run_bind, first]
  rfl

mutual

/-- A step takes a course on a stage. -/
theorem run_perform (tree : StepTree) (log : StageLog) :
    ∃ c log', Follows tree c ∧ log.Advances [c] log' ∧
      tree.perform.run log = (c.ended.result, log') := by
  obtain ⟨name, inner, ending⟩ := tree
  obtain ⟨courses, result, log', inside, advances, run⟩ := run_performAll inner (log.start name).2
  exact ⟨_, _, .step inside, advances.step, run_perform_step run⟩

/-- So do the steps inside it. -/
theorem run_performAll (trees : List StepTree) (log : StageLog) :
    ∃ courses result log', FollowsInOrder trees courses result ∧ log.Advances courses log' ∧
      (performAll trees).run log = (result, log') := by
  cases trees with
  | nil => exact ⟨[], .ok (), log, .nil, .refl, rfl⟩
  | cons tree rest =>
    obtain ⟨c, log₁, first, advances, run⟩ := run_perform tree log
    cases returned : c.ended.result with
    | error f =>
      rw [returned] at run
      exact ⟨[c], _, log₁, .stop first returned, advances, run_performAll_error run⟩
    | ok value =>
      rw [returned] at run
      obtain ⟨courses, result, log', others, advances', run'⟩ := run_performAll rest log₁
      exact ⟨c :: courses, result, log', .next first returned others,
        advances.trans advances', (run_performAll_ok run).trans run'⟩

end

/-- So do steps that are performed one after the other, whether they fail or not. -/
theorem run_mapM_perform (trees : List StepTree) (log : StageLog) :
    ∃ courses log', List.Forall₂ Follows trees courses ∧ log.Advances courses log' ∧
      (trees.mapM perform).run log = (courses.map (·.ended.result), log') := by
  induction trees generalizing log with
  | nil => exact ⟨[], log, .nil, .refl, rfl⟩
  | cons tree rest ih =>
    obtain ⟨c, log₁, first, advances, run⟩ := run_perform tree log
    obtain ⟨courses, log', others, advances', run'⟩ := ih log₁
    refine ⟨c :: courses, log', .cons first others, advances.trans advances', ?_⟩
    rw [List.mapM_cons, StateT.run_bind, run]
    show (StateT.run (rest.mapM perform >>= _) log₁) = _
    rw [StateT.run_bind, run']
    rfl

end StepTree

/-! ## Brackets -/

/-- The notes on a stage on which steps took these courses. -/
structure StageLog.Bracketed (log : StageLog) (courses : List StepCourse) : Prop where
  /-- Nothing else is noted. -/
  events : log.events = eventsOf courses
  /-- Steps are numbered in the order in which they start. -/
  numbers : (allOf courses).map StepCourse.index = List.range' 1 log.steps
  starts : log.events.filter (·.state = .started) = (allOf courses).map StepCourse.opening
  /-- Two notes have the number of a step: that of its start, and behind it that of its end. -/
  own : ∀ c ∈ allOf courses, log.events.filter (·.index = c.index) = [c.opening, c.closing]
  /-- Between these two stand the notes on the steps inside it, and no others. -/
  between : ∀ c ∈ allOf courses,
    (∃ before after, log.events = before ++ c.opening :: eventsOf c.inner ++ c.closing :: after) ∧
      ∀ d ∈ allOf c.inner, d.events <:+: eventsOf c.inner
  names : log.stepNames = (allOf courses).map StepCourse.name

theorem StageLog.Advances.bracketed {name : String} {courses : List StepCourse} {log : StageLog}
    (advances : Advances { name } courses log) : log.Bracketed courses := by
  have events : log.events = eventsOf courses := advances.events
  have steps : log.steps = (allOf courses).length := by simpa using advances.steps
  have numbers : (allOf courses).map StepCourse.index = List.range' 1 log.steps := by
    rw [steps]
    exact advances.numbers
  have starts : (eventsOf courses).filter (·.state = .started)
      = (allOf courses).map StepCourse.opening := StepCourse.filter_started
  refine ⟨events, numbers, ?starts, ?own, ?between, ?names⟩
  case starts => rw [events, starts]
  case names =>
    rw [StageLog.stepNames, events, starts, List.map_map]
    rfl
  case own =>
    intro c mem
    rw [events]
    exact StepCourse.filter_index (numbers ▸ List.nodup_range') mem
  case between =>
    intro c mem
    obtain ⟨before, after, split⟩ := StepCourse.events_infix mem
    refine ⟨⟨before, after, ?_⟩, fun d inner => StepCourse.events_infix inner⟩
    rw [events, ← split, StepCourse.events_eq]
    simp

namespace StepTree

/-- What becomes of steps that are performed on a new stage, one after the other: what they return,
what is noted, and which courses they take. -/
structure History (trees : List StepTree) (results : List (Except Failure (Option Unit)))
    (log : StageLog) (courses : List StepCourse) : Prop extends log.Bracketed courses where
  follows : List.Forall₂ Follows trees courses
  /-- A step that finished or was skipped returns no error, one that failed that of its body. -/
  results : results = courses.map (·.ended.result)
  /-- Where no step inside a step failed all of them are performed, and it ends as it is meant
  to. -/
  ends : ∀ c ∈ allOf courses, ∃ tree ∈ partsOf trees, Follows tree c ∧
    ((∀ d ∈ c.inner, ∀ f, d.ended ≠ .failed f) →
      c.inner.length = tree.inner.length ∧ c.ended = tree.ending)
  /-- Where a step failed all steps around it failed in the same way. -/
  breaks : ∀ c ∈ allOf courses, ∀ d ∈ allOf c.inner, ∀ f, d.ended = .failed f →
    c.ended = .failed f
  failed_iff : ∀ c ∈ allOf courses, ∀ message,
    ⟨c.name, c.index, .failed, message⟩ ∈ log.events ↔
      ∃ f, c.ended = .failed f ∧ message = some f.report
  skipped_iff : ∀ c ∈ allOf courses, ∀ message,
    ⟨c.name, c.index, .skipped, message⟩ ∈ log.events ↔
      ∃ reason, c.ended = .skipped reason ∧ message = some reason

/-- The end of a step is noted as its body ended. -/
theorem closed_iff {log : StageLog} {courses : List StepCourse} (bracketed : log.Bracketed courses)
    {c : StepCourse} (mem : c ∈ allOf courses) {state : StepState} {message : Option String}
    (later : state ≠ .started) :
    ⟨c.name, c.index, state, message⟩ ∈ log.events ↔ c.ended.note = (state, message) := by
  have among : ⟨c.name, c.index, state, message⟩ ∈ log.events ↔
      ⟨c.name, c.index, state, message⟩ ∈ log.events.filter (·.index = c.index) := by
    simp [List.mem_filter]
  rw [among, bracketed.own c mem]
  simp [StepCourse.opening, StepCourse.closing, later, Prod.ext_iff, eq_comm]

example : ((perform (.step "Deleting" [.step "Deleting VM" [] (.skipped "VM not found"),
      .step "Deleting disk" [] (.failed (.plain "no answer")),
      .step "Deleting stemcell" [] (.finished ())] (.finished ()))).run
        { name := "deleting" }).2.events = [
    ⟨"Deleting", 1, .started, none⟩, ⟨"Deleting VM", 2, .started, none⟩,
    ⟨"Deleting VM", 2, .skipped, some "VM not found"⟩, ⟨"Deleting disk", 3, .started, none⟩,
    ⟨"Deleting disk", 3, .failed, some "no answer"⟩,
    ⟨"Deleting", 1, .failed, some "no answer"⟩] := by
  decide +kernel

end StepTree

end VmDeploy
