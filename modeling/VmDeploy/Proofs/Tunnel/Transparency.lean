import VmDeploy.Proofs.Tunnel.Copying

/-!
# Passing errors during a copy

Passing errors of reads and writes leave no trace in a copy: what came out and how it ended depends
only on the rest of both scripts (`runFrom_lasting`). So it is with flushes that would block. A
flush that is interrupted is not tried again, though: it ends the copy with that error when all is
written, and this is the only way in which a copy ends with a passing error.

`transparent` says what passing errors change that are put into all three scripts or taken out of
them, anywhere and in any number: they never change the bytes that came out, and they change the
result exactly if they decide whether the flush is interrupted. `interrupted_flush_seen` is a copy
of which they do change it.
-/

set_option autoImplicit false

namespace VmDeploy.Copy

/-! ## Scripts without passing errors -/

/-- Whether a result is a passing error. -/
def isPassing {α : Type} : Except StreamError α → Bool
  | .ok _ => false
  | .error e => e.isPassing

/-- A script without its passing errors. -/
def lasting {α : Type} (script : List (Except StreamError α)) : List (Except StreamError α) :=
  script.filter (!isPassing ·)

/-- Scripts that differ in passing errors only. -/
def Alike {α : Type} (script script' : List (Except StreamError α)) : Prop :=
  lasting script = lasting script'

section

variable {α : Type} {e : StreamError} {script : List (Except StreamError α)}

theorem lasting_passing (passing : e.isPassing = true) :
    lasting (.error e :: script) = lasting script := by
  simp [lasting, isPassing, passing]

theorem lasting_hard (hard : e.isPassing = false) :
    lasting (.error e :: script) = .error e :: lasting script := by
  simp [lasting, isPassing, hard]

theorem lasting_ok (a : α) : lasting (.ok a :: script) = .ok a :: lasting script := by
  simp [lasting, isPassing]

/-- A passing error may be put in anywhere. -/
theorem Alike.insert (passing : e.isPassing = true) (earlier later : List (Except StreamError α)) :
    Alike (earlier ++ .error e :: later) (earlier ++ later) := by
  simp [Alike, lasting, isPassing, passing]

end

/-! ## Reads and writes -/

theorem unwritten_pause (e : StreamError) : (pause e).flatMap Event.bytesWritten = [] := by
  cases e <;> rfl

/-- What comes of writing a buffer out is the same without the passing errors of the script. -/
theorem drain_lasting (writes : WriteScript) (buffer : List UInt8) :
    let d := drain writes buffer
    let d' := drain (lasting writes) buffer
    d'.events.flatMap Event.bytesWritten = d.events.flatMap Event.bytesWritten ∧
      d'.fault = d.fault ∧ d'.writes = lasting d.writes := by
  fun_induction drain writes buffer with
  | case1 => simp [drain]
  | case2 => simp [drain, lasting]
  | case3 => simp [lasting_ok, drain]
  | case4 n writes buffer nonempty positive taken ih =>
    obtain ⟨written, fault, left⟩ := ih
    have gives : drain (lasting (.ok n :: writes)) buffer
        = (drain (lasting writes) (buffer.drop taken)).behind [.write buffer (.ok taken)] := by
      rw [lasting_ok, drain]
      · exact positive
      · exact nonempty
    rw [gives]
    exact ⟨congrArg (buffer.take taken ++ ·) written, fault, left⟩
  | case5 e writes buffer nonempty passing ih =>
    obtain ⟨written, fault, left⟩ := ih
    rw [lasting_passing passing]
    refine ⟨?_, fault, left⟩
    simp [written, Drain.behind, Event.bytesWritten, unwritten_pause]
  | case6 e writes buffer nonempty hard =>
    have fails : drain (lasting (.error e :: writes)) buffer
        = ⟨[.write buffer (.error e)], lasting writes, some e⟩ := by
      rw [lasting_hard (Bool.eq_false_iff.mpr hard), drain, if_neg hard]
      exact nonempty
    rw [fails]
    exact ⟨rfl, rfl, rfl⟩

/-- A copy ends with the error of a write. -/
theorem runFrom_failed {flushes : FlushScript} {total : Nat} {buffer : List UInt8}
    {reads : ReadScript} {writes : WriteScript} {e : StreamError} (nonempty : buffer ≠ [])
    (failed : (drain writes buffer).fault = some e) :
    runFrom flushes total (.ok buffer :: reads) writes
      = ⟨.read (.ok buffer) :: (drain writes buffer).events, .error e⟩ := by
  rw [runFrom]
  · simp only [failed]
  · exact nonempty

/-- A copy goes on when a buffer is written out. -/
theorem runFrom_drained {flushes : FlushScript} {total : Nat} {buffer : List UInt8}
    {reads : ReadScript} {writes : WriteScript} (nonempty : buffer ≠ [])
    (unfailed : (drain writes buffer).fault = none) :
    runFrom flushes total (.ok buffer :: reads) writes
      = (runFrom flushes (total + buffer.length) reads (drain writes buffer).writes).behind
        (.read (.ok buffer) :: (drain writes buffer).events) := by
  rw [runFrom]
  · simp only [unfailed]
  · exact nonempty

/-- What comes of a copy is the same without the passing errors of its reads and writes. -/
theorem runFrom_lasting (flushes : FlushScript) (total : Nat) (reads : ReadScript)
    (writes : WriteScript) :
    let r := runFrom flushes total reads writes
    let r' := runFrom flushes total (lasting reads) (lasting writes)
    r'.delivered = r.delivered ∧ r'.result = r.result := by
  fun_induction runFrom flushes total reads writes with
  | case1 => simp [lasting, runFrom]
  | case2 => simp [lasting_ok, runFrom]
  | case3 total buffer reads writes nonempty drained earlier e failed =>
    obtain ⟨written, fault, -⟩ := drain_lasting writes buffer
    rw [lasting_ok, runFrom_failed nonempty (fault.trans failed)]
    exact ⟨written, rfl⟩
  | case4 total buffer reads writes nonempty drained earlier unfailed ih =>
    obtain ⟨written, fault, left⟩ := drain_lasting writes buffer
    obtain ⟨delivered, result⟩ := ih
    rw [lasting_ok, runFrom_drained nonempty (fault.trans unfailed), left]
    refine ⟨?_, result⟩
    simp only [Run.delivered, Run.behind, earlier, drained, List.flatMap_append,
      List.flatMap_cons, written] at delivered ⊢
    rw [delivered]
  | case5 total e reads writes passing ih =>
    obtain ⟨delivered, result⟩ := ih
    rw [lasting_passing passing]
    refine ⟨?_, result⟩
    rw [delivered]
    simp [Run.delivered, Run.behind, Event.bytesWritten, unwritten_pause]
  | case6 total e reads writes hard =>
    rw [lasting_hard (Bool.eq_false_iff.mpr hard), runFrom, if_neg hard]
    exact ⟨rfl, rfl⟩

/-! ## Flushes -/

/-- What flushing comes to: the first result that is not that a flush would block. -/
def flushed : FlushScript → Except StreamError Unit
  | [] => .ok ()
  | .error .wouldBlock :: rest => flushed rest
  | result :: _ => result

theorem delivered_flush (total : Nat) (flushes : FlushScript) :
    (flush total flushes).delivered = [] := by
  fun_induction flush total flushes with
  | case1 | case3 => simp [Run.delivered, Event.bytesWritten]
  | case2 rest ih =>
    simpa [Run.delivered, Run.behind, Event.bytesWritten, unwritten_pause] using ih

theorem result_flush (total : Nat) (flushes : FlushScript) :
    (flush total flushes).result = (flushed flushes).map fun _ => total := by
  fun_induction flush total flushes with
  | case1 => rfl
  | case2 rest ih => exact ih
  | case3 result rest settled =>
    rw [flushed]
    exact settled

/-- Flushes that are not interrupted come to the same without passing errors. -/
theorem flushed_lasting {flushes : FlushScript} (whole : flushed flushes ≠ .error .interrupted) :
    flushed (lasting flushes) = flushed flushes := by
  fun_induction flushed flushes with
  | case1 => rfl
  | case2 rest ih =>
    rw [lasting_passing rfl]
    exact ih whole
  | case3 result rest settled =>
    cases result with
    | ok _ =>
      rw [lasting_ok, flushed]
      exact settled
    | error e =>
      have hard : e.isPassing = false := by
        cases e with
        | wouldBlock => exact absurd rfl settled
        | interrupted => exact absurd rfl whole
        | _ => rfl
      rw [lasting_hard hard, flushed]
      exact settled

/-- A buffer that is not written out ends with an error that is not passing. -/
theorem hard_of_drain {writes : WriteScript} {buffer : List UInt8} {e : StreamError}
    (failed : (drain writes buffer).fault = some e) : e.isPassing = false := by
  fun_induction drain writes buffer with
  | case1 | case2 => cases failed
  | case3 =>
    cases failed
    rfl
  | case4 n writes buffer nonempty positive taken ih => exact ih failed
  | case5 e' writes buffer nonempty passing ih => exact ih failed
  | case6 e' writes buffer nonempty hard =>
    cases failed
    exact Bool.eq_false_iff.mpr hard

/-- How the flushes of a copy matter: not at all, if it fails before them, or as its end. They
change nothing of what came out. -/
structure EndsWithFlushes (copy : FlushScript → Run) : Prop where
  delivered : ∀ flushes flushes', (copy flushes).delivered = (copy flushes').delivered
  result : (∃ e : StreamError, e.isPassing = false ∧ ∀ flushes, (copy flushes).result = .error e) ∨
    ∃ count, ∀ flushes, (copy flushes).result = (flushed flushes).map fun _ => count

theorem EndsWithFlushes.behind {copy : FlushScript → Run} (ends : EndsWithFlushes copy)
    (earlier : List Event) : EndsWithFlushes fun flushes => (copy flushes).behind earlier where
  delivered flushes flushes' := by
    have same := ends.delivered flushes flushes'
    simp only [Run.delivered, Run.behind, List.flatMap_append] at same ⊢
    rw [same]
  result := ends.result

/-- A copy that fails before it flushes. -/
theorem endsWithFlushes_failed {e : StreamError} (hard : e.isPassing = false)
    (events : List Event) : EndsWithFlushes fun _ => ⟨events, .error e⟩ where
  delivered _ _ := rfl
  result := .inl ⟨e, hard, fun _ => rfl⟩

theorem endsWithFlushes_flush (total : Nat) :
    EndsWithFlushes fun flushes => flush total flushes where
  delivered flushes flushes' := by rw [delivered_flush, delivered_flush]
  result := .inr ⟨total, result_flush total⟩

theorem runFrom_flushes (total : Nat) (reads : ReadScript) (writes : WriteScript) :
    EndsWithFlushes fun flushes => runFrom flushes total reads writes := by
  induction reads generalizing total writes with
  | nil =>
    simp only [runFrom]
    exact (endsWithFlushes_flush total).behind _
  | cons result reads ih =>
    cases result with
    | error e =>
      simp only [runFrom]
      split
      · exact (ih total writes).behind _
      · rename_i hard
        exact endsWithFlushes_failed (Bool.eq_false_iff.mpr hard) _
    | ok buffer =>
      by_cases empty : buffer = []
      · subst empty
        simp only [runFrom]
        exact (endsWithFlushes_flush total).behind _
      · cases fault : (drain writes buffer).fault with
        | none =>
          simp only [runFrom_drained empty fault]
          exact (ih _ _).behind _
        | some e =>
          simp only [runFrom_failed empty fault]
          exact endsWithFlushes_failed (hard_of_drain fault) _

/-! ## The law -/

/-- A copy that reads and writes all there is, and whose first flush that would not block is
interrupted. -/
def CutOff (flushes : FlushScript) (reads : ReadScript) (writes : WriteScript) : Prop :=
  (∃ count, (run [] reads writes).result = .ok count) ∧ flushed flushes = .error .interrupted

/-- How a copy compares with one whose scripts differ in passing errors. -/
structure Transparent (flushes flushes' : FlushScript) (reads reads' : ReadScript)
    (writes writes' : WriteScript) : Prop where
  /-- The same bytes come out. -/
  delivered : (run flushes reads writes).delivered = (run flushes' reads' writes').delivered
  /-- The result is the same, unless just one of them is cut off by a flush that is interrupted. -/
  result_eq_iff : (run flushes reads writes).result = (run flushes' reads' writes').result ↔
    (CutOff flushes reads writes ↔ CutOff flushes' reads' writes')
  /-- A copy does not end because something would block. -/
  unblocked : (run flushes reads writes).result ≠ .error .wouldBlock
  /-- It ends with an interruption exactly if it is cut off. -/
  interrupted_iff : (run flushes reads writes).result = .error .interrupted ↔
    CutOff flushes reads writes

/-- How a copy ends: as it does with any flushes, or as its flushes come out. -/
theorem result_cases (reads : ReadScript) (writes : WriteScript) :
    (∃ e : StreamError, e.isPassing = false ∧
        ∀ flushes, (run flushes reads writes).result = .error e) ∨
      ∃ count, ∀ flushes, (run flushes reads writes).result
        = (flushed flushes).map fun _ => count :=
  (runFrom_flushes 0 reads writes).result

theorem result_eq_interrupted_iff {flushes : FlushScript} {reads : ReadScript}
    {writes : WriteScript} :
    (run flushes reads writes).result = .error .interrupted ↔ CutOff flushes reads writes := by
  rcases result_cases reads writes with ⟨e, hard, fails⟩ | ⟨count, ends⟩
  · simp only [CutOff, fails]
    constructor
    · intro same
      cases same
      cases hard
    · rintro ⟨⟨count, succeeded⟩, -⟩
      cases succeeded
  · simp only [CutOff, ends]
    constructor
    · intro interrupted
      refine ⟨⟨count, rfl⟩, ?_⟩
      cases flushes : flushed flushes <;> rw [flushes] at interrupted <;> cases interrupted
      rfl
    · rintro ⟨-, interrupted⟩
      rw [interrupted]
      rfl

/-- No flush that would block ends a copy. -/
theorem flushed_ne_wouldBlock (flushes : FlushScript) : flushed flushes ≠ .error .wouldBlock := by
  fun_induction flushed flushes with
  | case1 => nofun
  | case2 rest ih => exact ih
  | case3 result rest settled => exact settled

theorem result_ne_wouldBlock (flushes : FlushScript) (reads : ReadScript) (writes : WriteScript) :
    (run flushes reads writes).result ≠ .error .wouldBlock := by
  intro blocked
  rcases result_cases reads writes with ⟨e, hard, fails⟩ | ⟨count, ends⟩
  · cases (fails flushes).symm.trans blocked
    cases hard
  · rw [ends] at blocked
    have settled := flushed_ne_wouldBlock flushes
    cases flushes : flushed flushes with
    | ok _ =>
      rw [flushes] at blocked
      cases blocked
    | error e =>
      rw [flushes] at blocked settled
      cases blocked
      exact settled rfl

/-- Copies that are not interrupted end in the same way if their flushes differ in passing errors
only. -/
theorem result_eq_of_whole {flushes flushes' : FlushScript} {reads : ReadScript}
    {writes : WriteScript} (alike : Alike flushes flushes')
    (whole : (run flushes reads writes).result ≠ .error .interrupted)
    (whole' : (run flushes' reads writes).result ≠ .error .interrupted) :
    (run flushes reads writes).result = (run flushes' reads writes).result := by
  rcases result_cases reads writes with ⟨e, -, fails⟩ | ⟨count, ends⟩
  · rw [fails, fails]
  · rw [ends] at whole whole' ⊢
    rw [ends]
    have uncut : flushed flushes ≠ .error .interrupted := fun cut => whole (by rw [cut]; rfl)
    have uncut' : flushed flushes' ≠ .error .interrupted := fun cut => whole' (by rw [cut]; rfl)
    rw [← flushed_lasting uncut, ← flushed_lasting uncut', alike]

/-- Reads and writes that differ in passing errors come to the same. -/
theorem run_alike {reads reads' : ReadScript} {writes writes' : WriteScript}
    (flushes : FlushScript) (sameReads : Alike reads reads') (sameWrites : Alike writes writes') :
    (run flushes reads writes).delivered = (run flushes reads' writes').delivered ∧
      (run flushes reads writes).result = (run flushes reads' writes').result := by
  obtain ⟨delivered, result⟩ := runFrom_lasting flushes 0 reads writes
  obtain ⟨delivered', result'⟩ := runFrom_lasting flushes 0 reads' writes'
  rw [sameReads, sameWrites] at delivered result
  exact ⟨delivered.symm.trans delivered', result.symm.trans result'⟩

/-- Passing errors that are put into the scripts of a copy or taken out of them, anywhere, never
change what comes out; they change the result exactly if they decide whether a flush is interrupted
that is not tried again. -/
theorem transparent {flushes flushes' : FlushScript} {reads reads' : ReadScript}
    {writes writes' : WriteScript} (sameFlushes : Alike flushes flushes')
    (sameReads : Alike reads reads') (sameWrites : Alike writes writes') :
    Transparent flushes flushes' reads reads' writes writes' := by
  obtain ⟨delivered, result⟩ := run_alike flushes sameReads sameWrites
  have flushing := (runFrom_flushes 0 reads' writes').delivered flushes flushes'
  refine ⟨delivered.trans flushing, ?_, result_ne_wouldBlock flushes reads writes,
    result_eq_interrupted_iff⟩
  rw [← result_eq_interrupted_iff, ← result_eq_interrupted_iff]
  constructor
  · intro same
    rw [same]
  · intro cut
    by_cases interrupted : (run flushes reads writes).result = .error .interrupted
    · rw [interrupted, cut.mp interrupted]
    · have interrupted' : ¬ (run flushes' reads' writes').result = .error .interrupted :=
        fun here => interrupted (cut.mpr here)
      rw [result] at interrupted ⊢
      exact result_eq_of_whole sameFlushes interrupted interrupted'

/-- Two bytes in two writes, where every call but one is disturbed. -/
theorem transparent_sample :
    let flushes : FlushScript := [.error .wouldBlock, .ok ()]
    let reads : ReadScript := [.error .interrupted, .ok [104, 105], .error .wouldBlock]
    let writes : WriteScript := [.error .wouldBlock, .ok 1, .error .interrupted, .ok 1]
    Alike flushes [.ok ()] ∧ Alike reads [.ok [104, 105]] ∧ Alike writes [.ok 1, .ok 1] ∧
      (run flushes reads writes).delivered = [104, 105] ∧
      Transparent flushes [.ok ()] reads [.ok [104, 105]] writes [.ok 1, .ok 1] :=
  ⟨rfl, rfl, rfl, by decide, transparent rfl rfl rfl⟩

/-- A flush that is interrupted is told as an error of a copy that wrote everything, and that
succeeds without that passing error. -/
theorem interrupted_flush_seen :
    Alike [.error .interrupted] ([] : FlushScript) ∧
      (run [.error .interrupted] [.ok [104, 105]] []).result = .error .interrupted ∧
      (run [] [.ok [104, 105]] []).result = .ok 2 :=
  ⟨rfl, rfl, rfl⟩

end VmDeploy.Copy
