import VmDeploy.Tunnel.Copy

/-!
# Copies are faithful

A copy is followed call by call. Between two calls it holds the bytes that were read and are still
to be written (`Stage`); what may happen next is told by `Step`, and no step creates bytes or loses
them (`Step.conserves`). So at every point of a copy the bytes that were written and those that are
held are the bytes that were read (`Course.conserves`): what came out is the beginning of what came
in, in order.

Every copy takes such steps until it is over (`runFrom_course`), whatever the scripts of both
streams say. That more is read only when nothing is held, and that nothing happens behind an error
that is not passing, is read off the steps (`faithful`).
-/

set_option autoImplicit false

namespace VmDeploy.Copy

/-! ## Steps -/

/-- How far a copy is. -/
inductive Stage where
  /-- These bytes were read and are still to be written. -/
  | holding (bytes : List UInt8)
  /-- The end of the stream was read. -/
  | flushing
  /-- It is over, and these bytes were left. -/
  | over (left : List UInt8) (outcome : Except StreamError Unit)

/-- The bytes that were read and not written. -/
def Stage.held : Stage → List UInt8
  | .holding bytes => bytes
  | .flushing => []
  | .over left _ => left

/-- What may happen next. Nothing happens to a copy that is over. -/
inductive Step : Stage → Event → Stage → Prop
  | take {bytes : List UInt8} (some : bytes ≠ []) :
      Step (.holding []) (.read (.ok bytes)) (.holding bytes)
  | close : Step (.holding []) (.read (.ok [])) .flushing
  | takeAgain {e : StreamError} (passing : e.isPassing = true) :
      Step (.holding []) (.read (.error e)) (.holding [])
  | takeFails {e : StreamError} (hard : e.isPassing = false) :
      Step (.holding []) (.read (.error e)) (.over [] (.error e))
  | give {held : List UInt8} {taken : Nat} (some : taken ≠ 0) :
      Step (.holding held) (.write held (.ok taken)) (.holding (held.drop taken))
  | giveNothing {held : List UInt8} :
      Step (.holding held) (.write held (.ok 0)) (.over held (.error .writeZero))
  | giveAgain {held : List UInt8} {e : StreamError} (passing : e.isPassing = true) :
      Step (.holding held) (.write held (.error e)) (.holding held)
  | giveFails {held : List UInt8} {e : StreamError} (hard : e.isPassing = false) :
      Step (.holding held) (.write held (.error e)) (.over held (.error e))
  | flush {result : Except StreamError Unit} (settled : result ≠ .error .wouldBlock) :
      Step .flushing (.flush result) (.over [] result)
  | flushAgain : Step .flushing (.flush (.error .wouldBlock)) .flushing
  | restHolding {held : List UInt8} : Step (.holding held) .rest (.holding held)
  | restFlushing : Step .flushing .rest .flushing

/-- A step neither creates bytes nor loses them. -/
theorem Step.conserves {s s' : Stage} {event : Event} (step : Step s event s') :
    s.held ++ event.bytesRead = event.bytesWritten ++ s'.held := by
  cases step <;> simp [Stage.held, Event.bytesRead, Event.bytesWritten]

/-- Several steps, one after the other. -/
inductive Course : Stage → List Event → Stage → Prop
  | done (s : Stage) : Course s [] s
  | step {s s₁ s' : Stage} {event : Event} {events : List Event} (first : Step s event s₁)
      (rest : Course s₁ events s') : Course s (event :: events) s'

namespace Course

variable {s s₁ s' : Stage} {events earlier later : List Event} {event : Event}
  {left : List UInt8} {outcome : Except StreamError Unit}

theorem append (before : Course s earlier s₁) (behind : Course s₁ later s') :
    Course s (earlier ++ later) s' := by
  induction before with
  | done => exact behind
  | step first _ ih => exact .step first (ih behind)

/-- A course can be looked at between any two steps. -/
theorem split (course : Course s (earlier ++ later) s') :
    ∃ s₁, Course s earlier s₁ ∧ Course s₁ later s' := by
  induction earlier generalizing s with
  | nil => exact ⟨s, .done s, course⟩
  | cons event earlier ih =>
    cases course with
    | step first rest =>
      obtain ⟨s₁, before, behind⟩ := ih rest
      exact ⟨s₁, .step first before, behind⟩

/-- Every event of a course is one of its steps. -/
theorem around (course : Course s (earlier ++ event :: later) s') :
    ∃ before after, Course s earlier before ∧ Step before event after ∧ Course after later s' := by
  obtain ⟨before, sofar, behind⟩ := course.split
  cases behind with
  | step here rest => exact ⟨before, _, sofar, here, rest⟩

/-- What was held and what was read is what was written and what is held. -/
theorem conserves (course : Course s events s') :
    s.held ++ events.flatMap Event.bytesRead
      = events.flatMap Event.bytesWritten ++ s'.held := by
  induction course with
  | done => simp
  | step first _ ih =>
    rw [List.flatMap_cons, List.flatMap_cons, ← List.append_assoc, first.conserves,
      List.append_assoc, ih, List.append_assoc]

/-- A copy that is over stays as it is. -/
theorem of_over (course : Course (.over left outcome) events s') :
    events = [] ∧ s' = .over left outcome := by
  cases course with
  | done => exact ⟨rfl, rfl⟩
  | step first _ => cases first

/-- The last step of a copy brings it to its end. -/
theorem last (course : Course (.holding []) events (.over left outcome)) :
    ∃ sofar last s, events = sofar ++ [last] ∧ Step s last (.over left outcome) := by
  rcases List.eq_nil_or_concat events with rfl | ⟨sofar, last, rfl⟩
  · cases course
  · rw [List.concat_eq_append] at course ⊢
    obtain ⟨s, _, -, ends, rest⟩ := course.around
    cases rest
    exact ⟨sofar, last, s, rfl, ends⟩

/-- A copy that succeeds ends with a flush, and nothing is left. -/
theorem flushed (course : Course (.holding []) events (.over left (.ok ()))) :
    left = [] ∧ events.getLast? = some (.flush (.ok ())) := by
  obtain ⟨sofar, last, s, rfl, ends⟩ := course.last
  cases ends
  exact ⟨rfl, by simp⟩

end Course

/-! ## Scripts -/

/-- What a read yielded. -/
def Event.readResult? : Event → Option (Except StreamError (List UInt8))
  | .read result => some result
  | .write _ _ | .flush _ | .rest => none

/-- How a flush went. -/
def Event.flushResult? : Event → Option (Except StreamError Unit)
  | .flush result => some result
  | .read _ | .write _ _ | .rest => none

/-- Nothing is read. -/
def Unread (events : List Event) : Prop := ∀ event ∈ events, event.readResult? = none

/-- Writes are answered by a script, and take everything when it is used up. -/
def Obeys : WriteScript → List Event → Prop
  | _, [] => True
  | [], .write offered result :: events => result = .ok offered.length ∧ Obeys [] events
  | answer :: writes, .write offered result :: events =>
    result = answer.map (min · offered.length) ∧ Obeys writes events
  | writes, .read _ :: events | writes, .flush _ :: events | writes, .rest :: events =>
    Obeys writes events

/-- The bytes that a script yields before the end of the stream. -/
def content : ReadScript → List UInt8
  | [] | .ok [] :: _ => []
  | .ok bytes :: reads => bytes ++ content reads
  | .error _ :: reads => content reads

theorem Unread.filterMap {events : List Event} (unread : Unread events) :
    events.filterMap Event.readResult? = [] :=
  List.filterMap_eq_nil_iff.mpr unread

theorem Unread.flatMap {events : List Event} (unread : Unread events) :
    events.flatMap Event.bytesRead = [] := by
  refine List.flatMap_eq_nil_iff.mpr fun event mem => ?_
  have none := unread event mem
  cases event with
  | read _ => cases none
  | _ => rfl

variable {P : Event → Prop}

/-- Before a call is made again the copy only rests. -/
theorem forall_mem_pause (rests : P .rest) (e : StreamError) : ∀ event ∈ pause e, P event := by
  cases e <;> simp [pause, rests]

/-- A buffer is written out by writes and rests alone. -/
theorem forall_mem_drain (gives : ∀ offered result, P (.write offered result))
    (rests : P .rest) (writes : WriteScript) (buffer : List UInt8) :
    ∀ event ∈ (drain writes buffer).events, P event := by
  fun_induction drain writes buffer with
  | case1 => exact List.forall_mem_nil _
  | case2 | case3 | case6 => exact List.forall_mem_singleton.mpr (gives _ _)
  | case4 n writes buffer nonempty positive taken ih =>
    exact List.forall_mem_cons.mpr ⟨gives _ _, ih⟩
  | case5 e writes buffer nonempty passing ih =>
    exact List.forall_mem_cons.mpr
      ⟨gives _ _, List.forall_mem_append.mpr ⟨forall_mem_pause rests e, ih⟩⟩

theorem unread_pause (e : StreamError) : Unread (pause e) :=
  forall_mem_pause (P := fun event => event.readResult? = none) rfl e

theorem unread_drain (writes : WriteScript) (buffer : List UInt8) :
    Unread (drain writes buffer).events :=
  forall_mem_drain (P := fun event => event.readResult? = none) (fun _ _ => rfl) rfl writes buffer

theorem unread_flush (total : Nat) (flushes : FlushScript) :
    Unread (flush total flushes).events := by
  fun_induction flush total flushes with
  | case1 | case3 => simp [Unread, Event.readResult?]
  | case2 rest ih =>
    exact List.forall_mem_cons.mpr ⟨rfl, List.forall_mem_append.mpr ⟨unread_pause _, ih⟩⟩

/-- Rests are no writes. -/
theorem Obeys.pause {writes : WriteScript} {later : List Event} (e : StreamError)
    (obeys : Obeys writes later) : Obeys writes (Copy.pause e ++ later) := by
  cases e <;> simpa [Copy.pause, Obeys] using obeys

/-- Writes out of a buffer are answered by the script, and later ones by what is left of it. -/
theorem obeys_drain {writes : WriteScript} {buffer : List UInt8} {later : List Event}
    (obeys : Obeys (drain writes buffer).writes later) :
    Obeys writes ((drain writes buffer).events ++ later) := by
  fun_induction drain writes buffer with
  | case1 => exact obeys
  | case2 => exact ⟨rfl, obeys⟩
  | case3 => exact ⟨rfl, obeys⟩
  | case4 n writes buffer nonempty positive taken ih => exact ⟨rfl, ih obeys⟩
  | case5 e writes buffer nonempty passing ih =>
    refine ⟨rfl, ?_⟩
    show Obeys _ ((_ ++ _) ++ _)
    rw [List.append_assoc]
    exact .pause e (ih obeys)
  | case6 => exact ⟨rfl, obeys⟩

/-! ## Copies take steps -/

/-- A buffer is written out in steps, up to its end or to an error. -/
inductive Drains (buffer : List UInt8) (d : Drain) : Prop
  | whole (unfailed : d.fault = none) (course : Course (.holding buffer) d.events (.holding []))
  | part (e : StreamError) (left : List UInt8) (failed : d.fault = some e)
      (course : Course (.holding buffer) d.events (.over left (.error e)))

theorem Drains.behind {buffer rest : List UInt8} {earlier : List Event} {d : Drain}
    (before : Course (.holding buffer) earlier (.holding rest)) (drains : Drains rest d) :
    Drains buffer (d.behind earlier) := by
  cases drains with
  | whole unfailed course => exact .whole unfailed (before.append course)
  | part e left failed course => exact .part e left failed (before.append course)

/-- Rests change nothing. -/
theorem course_pause {e : StreamError} {s : Stage} (rests : Step s .rest s) :
    Course s (pause e) s := by
  cases e with
  | wouldBlock => exact .step rests (.done s)
  | _ => exact .done s

theorem drain_drains (writes : WriteScript) (buffer : List UInt8) :
    Drains buffer (drain writes buffer) := by
  fun_induction drain writes buffer with
  | case1 => exact .whole rfl (.done _)
  | case2 buffer nonempty =>
    have all : buffer.length ≠ 0 := fun none => nonempty (List.length_eq_zero_iff.mp none)
    refine .whole rfl (.step (.give all) ?_)
    rw [List.drop_length]
    exact .done _
  | case3 writes buffer => exact .part _ buffer rfl (.step .giveNothing (.done _))
  | case4 n writes buffer nonempty positive taken ih =>
    have some : taken ≠ 0 := by
      have : buffer.length ≠ 0 := fun none => nonempty (List.length_eq_zero_iff.mp none)
      have : n ≠ 0 := positive
      omega
    exact ih.behind (.step (.give some) (.done _))
  | case5 e writes buffer _ passing ih =>
    exact ih.behind (.step (.giveAgain passing) (course_pause .restHolding))
  | case6 e writes buffer _ hard =>
    exact .part e buffer rfl (.step (.giveFails (Bool.eq_false_iff.mpr hard)) (.done _))

theorem flush_course (total : Nat) (flushes : FlushScript) :
    ∃ outcome, Course .flushing (flush total flushes).events (.over [] outcome) ∧
      (flush total flushes).result = outcome.map fun _ => total := by
  fun_induction flush total flushes with
  | case1 => exact ⟨.ok (), .step (.flush nofun) (.done _), rfl⟩
  | case2 rest ih =>
    obtain ⟨outcome, course, result⟩ := ih
    exact ⟨outcome, .step .flushAgain (.append (course_pause .restFlushing) course), result⟩
  | case3 result rest settled => exact ⟨result, .step (.flush settled) (.done _), rfl⟩

/-- A copy takes steps until it is over, and counts what it read. -/
theorem runFrom_course (flushes : FlushScript) (total : Nat) (reads : ReadScript)
    (writes : WriteScript) :
    let r := runFrom flushes total reads writes
    ∃ left outcome, Course (.holding []) r.events (.over left outcome) ∧
      r.result = outcome.map fun _ => total + (r.events.flatMap Event.bytesRead).length := by
  fun_induction runFrom flushes total reads writes with
  | case1 _ total | case2 _ total =>
    obtain ⟨outcome, course, result⟩ := flush_course total flushes
    refine ⟨[], outcome, .step .close course, ?_⟩
    show (flush total flushes).result = _
    rw [result]
    simp [Run.behind, Event.bytesRead, (unread_flush total flushes).flatMap]
  | case3 total buffer reads writes nonempty drained earlier e failed =>
    cases drain_drains writes buffer with
    | whole unfailed _ => cases unfailed.symm.trans failed
    | part e' left failed' course =>
      cases failed'.symm.trans failed
      exact ⟨left, .error e, .step (.take nonempty) course, rfl⟩
  | case4 total buffer reads writes nonempty drained earlier unfailed ih =>
    cases drain_drains writes buffer with
    | part _ _ failed _ => cases failed.symm.trans unfailed
    | whole _ drains =>
      obtain ⟨left, outcome, course, result⟩ := ih
      refine ⟨left, outcome, .step (.take nonempty) (drains.append course), ?_⟩
      show (runFrom flushes _ reads drained.writes).result = _
      rw [result]
      simp [Run.behind, earlier, Event.bytesRead, drained, (unread_drain writes buffer).flatMap,
        Nat.add_assoc]
  | case5 total e reads writes passing ih =>
    obtain ⟨left, outcome, course, result⟩ := ih
    refine ⟨left, outcome,
      .step (.takeAgain passing) ((course_pause .restHolding).append course), ?_⟩
    show (runFrom flushes total reads writes).result = _
    rw [result]
    simp [Run.behind, Event.bytesRead, (unread_pause e).flatMap]
  | case6 total e reads writes hard =>
    exact ⟨[], .error e, .step (.takeFails (Bool.eq_false_iff.mpr hard)) (.done _), rfl⟩

/-- Reads are answered by the script, and it is not read on behind the end of the stream. -/
theorem reads_runFrom (flushes : FlushScript) (total : Nat) (reads : ReadScript)
    (writes : WriteScript) :
    (runFrom flushes total reads writes).events.filterMap Event.readResult?
      <+: reads ++ [.ok []] := by
  fun_induction runFrom flushes total reads writes with
  | case1 _ total | case2 _ total _ =>
    simp [Run.behind, Event.readResult?, (unread_flush total flushes).filterMap]
  | case3 total buffer reads writes nonempty drained earlier e failed =>
    simp [earlier, drained, Event.readResult?, (unread_drain writes buffer).filterMap]
  | case4 total buffer reads writes nonempty drained earlier unfailed ih =>
    simpa [Run.behind, earlier, drained, Event.readResult?,
      (unread_drain writes buffer).filterMap] using ih
  | case5 total e reads writes passing ih =>
    simpa [Run.behind, Event.readResult?, (unread_pause e).filterMap] using ih
  | case6 total e reads writes hard => simp [Event.readResult?]

/-- What is only flushed makes no writes. -/
theorem obeys_flush (total : Nat) (flushes : FlushScript) (writes : WriteScript) :
    Obeys writes (flush total flushes).events := by
  fun_induction flush total flushes with
  | case1 | case3 => simp [Obeys]
  | case2 rest ih => simpa [Run.behind, Obeys] using ih.pause .wouldBlock

theorem obeys_runFrom (flushes : FlushScript) (total : Nat) (reads : ReadScript)
    (writes : WriteScript) : Obeys writes (runFrom flushes total reads writes).events := by
  fun_induction runFrom flushes total reads writes with
  | case1 writes total | case2 writes total _ =>
    simpa [Run.behind, Obeys] using obeys_flush total flushes writes
  | case3 total buffer reads writes nonempty drained earlier e failed =>
    have alone : Obeys writes (drained.events ++ []) := obeys_drain (by simp [Obeys])
    simpa [earlier, Obeys] using alone
  | case4 total buffer reads writes nonempty drained earlier unfailed ih =>
    simpa [Run.behind, earlier, Obeys] using obeys_drain ih
  | case5 total e reads writes passing ih =>
    simpa [Run.behind, Obeys] using ih.pause e
  | case6 total e reads writes hard => simp [Obeys]

theorem unflushed_pause (e : StreamError) : (pause e).filterMap Event.flushResult? = [] :=
  List.filterMap_eq_nil_iff.mpr
    (forall_mem_pause (P := fun event => event.flushResult? = none) rfl e)

theorem unflushed_drain (writes : WriteScript) (buffer : List UInt8) :
    (drain writes buffer).events.filterMap Event.flushResult? = [] :=
  List.filterMap_eq_nil_iff.mpr (forall_mem_drain (P := fun event => event.flushResult? = none)
    (fun _ _ => rfl) rfl writes buffer)

/-- Flushes are answered by the script, up to the one that is not made again. -/
theorem flushes_flush (total : Nat) (flushes : FlushScript) :
    (flush total flushes).events.filterMap Event.flushResult? <+: flushes ++ [.ok ()] := by
  fun_induction flush total flushes with
  | case1 | case3 => simp [Event.flushResult?]
  | case2 rest ih =>
    simpa [Run.behind, List.filterMap_cons, Event.flushResult?, unflushed_pause] using ih

/-- A copy flushes at its end alone. -/
theorem flushes_runFrom (flushes : FlushScript) (total : Nat) (reads : ReadScript)
    (writes : WriteScript) :
    (runFrom flushes total reads writes).events.filterMap Event.flushResult?
      <+: flushes ++ [.ok ()] := by
  fun_induction runFrom flushes total reads writes with
  | case1 _ total | case2 _ total _ =>
    simpa [Run.behind, List.filterMap_cons, Event.flushResult?] using flushes_flush total flushes
  | case3 total buffer reads writes nonempty drained earlier e failed =>
    simp [earlier, drained, List.filterMap_cons, Event.flushResult?, unflushed_drain]
  | case4 total buffer reads writes nonempty drained earlier unfailed ih =>
    simpa [Run.behind, earlier, drained, List.filterMap_cons, Event.flushResult?,
      unflushed_drain] using ih
  | case5 total e reads writes passing ih =>
    simpa [Run.behind, List.filterMap_cons, Event.flushResult?, unflushed_pause] using ih
  | case6 total e reads writes hard => simp [List.filterMap_cons, Event.flushResult?]

/-- A copy that succeeds read up to the end of the stream. -/
theorem content_of_runFrom {flushes : FlushScript} {total count : Nat} {reads : ReadScript}
    {writes : WriteScript} (succeeded : (runFrom flushes total reads writes).result = .ok count) :
    (runFrom flushes total reads writes).events.flatMap Event.bytesRead = content reads := by
  fun_induction runFrom flushes total reads writes with
  | case1 _ total | case2 _ total _ =>
    simp [Run.behind, Event.bytesRead, content, (unread_flush total flushes).flatMap]
  | case3 | case6 => cases succeeded
  | case4 total buffer reads writes nonempty drained earlier unfailed ih =>
    have behind := ih succeeded
    simp [Run.behind, earlier, drained, Event.bytesRead, (unread_drain writes buffer).flatMap,
      behind, content]
  | case5 total e reads writes passing ih =>
    have behind := ih succeeded
    simp [Run.behind, Event.bytesRead, (unread_pause e).flatMap, behind, content]

/-! ## The law -/

/-- A copy of a stream is faithful, whatever the two streams do. -/
structure Faithful (flushes : FlushScript) (reads : ReadScript) (writes : WriteScript) (r : Run) :
    Prop where
  /-- What the calls come to is what the scripts say. -/
  readAsTold : r.events.filterMap Event.readResult? <+: reads ++ [.ok []]
  writtenAsTold : Obeys writes r.events
  flushedAsTold : r.events.filterMap Event.flushResult? <+: flushes ++ [.ok ()]
  /-- At every point, what was written is the beginning of what was read. -/
  inOrder : ∀ sofar, sofar <+: r.events →
    sofar.flatMap Event.bytesWritten <+: sofar.flatMap Event.bytesRead
  /-- A copy that succeeds wrote all that stands before the end of the stream, counted it and
  flushed it. -/
  complete : ∀ count, r.result = .ok count →
    r.delivered = content reads ∧ count = (content reads).length ∧
      r.events.getLast? = some (.flush (.ok ()))
  /-- Where a read fails for good, all that was read before is written. -/
  readFails : ∀ sofar e later, r.events = sofar ++ .read (.error e) :: later →
    e.isPassing = false →
      sofar.flatMap Event.bytesWritten = sofar.flatMap Event.bytesRead ∧
        later = [] ∧ r.result = .error e
  /-- Behind a write that fails for good nothing happens. -/
  writeFails : ∀ sofar offered e later, r.events = sofar ++ .write offered (.error e) :: later →
    e.isPassing = false → later = [] ∧ r.result = .error e
  /-- Nor does anything happen behind a write that takes nothing. -/
  writesNothing : ∀ sofar offered later, r.events = sofar ++ .write offered (.ok 0) :: later →
    later = [] ∧ r.result = .error .writeZero

/-- Every copy is faithful. -/
theorem faithful (flushes : FlushScript) (reads : ReadScript) (writes : WriteScript) :
    Faithful flushes reads writes (run flushes reads writes) := by
  have all : ∀ count, (run flushes reads writes).result = .ok count →
      (run flushes reads writes).events.flatMap Event.bytesRead = content reads :=
    fun _ => content_of_runFrom
  obtain ⟨left, outcome, course, result⟩ := runFrom_course flushes 0 reads writes
  rw [← run, Nat.zero_add] at result
  rw [← run] at course
  refine {
    readAsTold := reads_runFrom flushes 0 reads writes
    writtenAsTold := obeys_runFrom flushes 0 reads writes
    flushedAsTold := flushes_runFrom flushes 0 reads writes
    inOrder := fun sofar before => ?inOrder
    complete := fun count succeeded => ?complete
    readFails := fun sofar e later here hard => ?readFails
    writeFails := fun sofar offered e later here hard => ?writeFails
    writesNothing := fun sofar offered later here => ?writesNothing }
  case inOrder =>
    -- Whatever comes later, the steps so far have held back what was read and not written.
    obtain ⟨later, here⟩ := before
    obtain ⟨s, before, -⟩ := Course.split (here ▸ course)
    exact ⟨s.held, before.conserves.symm⟩
  case complete =>
    have whole := all count succeeded
    cases outcome with
    | error e => cases result.symm.trans succeeded
    | ok _ =>
      -- The last step was a flush that went well, so that nothing is held at the end.
      obtain ⟨rfl, flushed⟩ := course.flushed
      cases result.symm.trans succeeded
      have written : (run flushes reads writes).events.flatMap Event.bytesRead
          = (run flushes reads writes).delivered ++ [] := course.conserves
      rw [List.append_nil] at written
      exact ⟨written.symm.trans whole, congrArg List.length whole, flushed⟩
  case readFails =>
    -- It is only read when nothing is held, and a step that fails for good is the last one. The
    -- other errors and a write of nothing go alike.
    obtain ⟨_, _, before, step, behind⟩ := Course.around (here ▸ course)
    cases step with
    | takeAgain passing => cases hard.symm.trans passing
    | takeFails _ =>
      obtain ⟨rfl, same⟩ := behind.of_over
      cases same
      have conserved := before.conserves
      rw [Stage.held, List.append_nil] at conserved
      exact ⟨conserved.symm, rfl, result⟩
  case writeFails =>
    obtain ⟨_, _, -, step, behind⟩ := Course.around (here ▸ course)
    cases step with
    | giveAgain passing => cases hard.symm.trans passing
    | giveFails _ =>
      obtain ⟨rfl, same⟩ := behind.of_over
      cases same
      exact ⟨rfl, result⟩
  case writesNothing =>
    obtain ⟨_, _, -, step, behind⟩ := Course.around (here ▸ course)
    cases step with
    | give some => exact absurd rfl some
    | giveNothing =>
      obtain ⟨rfl, same⟩ := behind.of_over
      cases same
      exact ⟨rfl, result⟩

/-- A write that takes one byte of three, one that would block and an interrupted read cost
nothing. -/
example : (run [] [.error .interrupted, .ok [1, 2, 3]] [.ok 1, .error .wouldBlock]).delivered
    = [1, 2, 3] := by
  decide

end VmDeploy.Copy
