import Mathlib.Data.List.Induction
import VmDeploy.Proofs.Registry.Ledger
import VmDeploy.Proofs.Registry.Tables

/-!
# What a registry file answers

A registry file is asked anything, in any order and with any clock, and it is closed and opened
again in between. Whatever is done, the tables of the file, the registry and the list of records
give the same answers, and stand in step (`Agree`, by induction on what was done).

Of the list of records it can be said without following it step by step what is on it: the records
that were saved and not deleted since (`survivors`), and as the current one the record that was
made current last, unless it was deleted since (`Marks`). What that says of the file is `Refined`.
-/

set_option autoImplicit false

namespace VmDeploy

/-- Something that is done with a registry file. What is fresh about a record that is saved is
given. -/
inductive FileStep where
  | reopen
  | ask (id : RecordId) (now : Timestamp) (request : RegistryRequest)

/-- A request and its answer. -/
structure Told where
  request : RegistryRequest
  answer : request.Answer

/-- What can be asked what a registry is asked, and be opened again. -/
structure Keeper (S : Type) where
  answer : RecordId → Timestamp → S → (request : RegistryRequest) → request.Answer × S
  reopen : S → S

namespace Keeper

variable {S : Type} (k : Keeper S)

/-- What a step makes of a state. -/
def next (s : S) : FileStep → S
  | .reopen => k.reopen s
  | .ask id now request => (k.answer id now s request).2

/-- What is told during a step. -/
def told (s : S) : FileStep → List Told
  | .reopen => []
  | .ask id now request => [⟨request, (k.answer id now s request).1⟩]

/-- What steps lead to. -/
def reached (s : S) (steps : List FileStep) : S := steps.foldl k.next s

/-- What is told during steps. -/
def history (s : S) : List FileStep → List Told
  | [] => []
  | step :: steps => k.told s step ++ history (k.next s step) steps

theorem reached_concat (s : S) (steps : List FileStep) (step : FileStep) :
    k.reached s (steps ++ [step]) = k.next (k.reached s steps) step :=
  List.foldl_concat k.next s step steps

theorem history_concat (s : S) (steps : List FileStep) (step : FileStep) :
    k.history s (steps ++ [step]) = k.history s steps ++ k.told (k.reached s steps) step := by
  induction steps generalizing s with
  | nil => simp [history, reached]
  | cons first steps ih =>
    rw [List.cons_append, history, ih, history, List.append_assoc]
    rfl

end Keeper

/-- The tables of a file. -/
def Tables.keeper : Keeper Tables := ⟨Tables.answer, Tables.reopen⟩

/-- The registry. -/
def Registry.keeper : Keeper Registry := ⟨Registry.answer, Registry.reopen⟩

/-- The list of records, which knows of no files. -/
def Ledger.keeper : Keeper Ledger := ⟨Ledger.answer, id⟩

/-! ## What a history says of the records -/

namespace Told

/-- The record that was saved, if one was. -/
def saved? : Told → Option DiskRecord
  | ⟨.save _ _ _, .ok record⟩ => some record
  | _ => none

/-- The record that was made the current one, if one was. -/
def marked? : Told → Option RecordId
  | ⟨.updateCurrent id, .ok _⟩ => some id
  | _ => none

/-- The record that was deleted, if one was. -/
def deleted? : Told → Option RecordId
  | ⟨.delete id, _⟩ => some id
  | _ => none

end Told

/-- The records that were saved and not deleted since, as they are kept and in the order in which
they were saved. -/
def survivors : List Told → List DiskRecord
  | [] => []
  | event :: later =>
    match event.saved? with
    | none => survivors later
    | some record =>
      if later.any (·.deleted? = some record.id) then survivors later
      else record.stored :: survivors later

/-- A record was made the current one; since then no other was, and it was not deleted. -/
def Marks (history : List Told) (id : RecordId) : Prop :=
  ∃ before event after, history = before ++ event :: after ∧ event.marked? = some id ∧
    ∀ e ∈ after, e.marked? = none ∧ e.deleted? ≠ some id

theorem survivors_concat (history : List Told) (event : Told) :
    survivors (history ++ [event]) =
      (survivors history).filter (event.deleted? ≠ some ·.id) ++
        event.saved?.toList.map DiskRecord.stored := by
  induction history with
  | nil => cases here : event.saved? <;> simp [survivors, here]
  | cons first history ih =>
    rw [List.cons_append, survivors, survivors, ih]
    cases first.saved? with
    | none => rfl
    | some record =>
      dsimp only
      rw [List.any_append, List.any_cons, List.any_nil, Bool.or_false]
      cases history.any (·.deleted? = some record.id) with
      | true => rfl
      | false =>
        by_cases deleted : event.deleted? = some record.id
        · simp [deleted, DiskRecord.stored]
        · simp [deleted, DiskRecord.stored]

theorem marks_concat {history : List Told} {event : Told} {id : RecordId} :
    Marks (history ++ [event]) id ↔ event.marked? = some id ∨
      event.marked? = none ∧ event.deleted? ≠ some id ∧ Marks history id := by
  constructor
  · rintro ⟨before, marking, after, split, marked, unmarked⟩
    rcases List.eq_nil_or_concat after with rfl | ⟨after, last, rfl⟩
    · obtain ⟨-, same⟩ := List.append_inj' split rfl
      cases same
      exact .inl marked
    · rw [List.concat_eq_append] at unmarked split
      rw [← List.cons_append, ← List.append_assoc] at split
      obtain ⟨rfl, same⟩ := List.append_inj' split rfl
      cases same
      obtain ⟨none, kept⟩ := unmarked event (by simp)
      refine .inr ⟨none, kept, before, marking, after, rfl, marked, fun e mem => ?_⟩
      exact unmarked e (List.mem_append_left _ mem)
  · rintro (marked | ⟨none, kept, before, marking, after, rfl, marked, unmarked⟩)
    · exact ⟨history, event, [], rfl, marked, by simp⟩
    · refine ⟨before, marking, after ++ [event], by simp, marked, ?_⟩
      exact List.forall_mem_append.mpr ⟨unmarked, List.forall_mem_singleton.mpr ⟨none, kept⟩⟩

namespace Ledger

variable {l : Ledger} {id : RecordId} {now : Timestamp}

/-- What a request does to the records can be told from its answer. -/
theorem records_answer (request : RegistryRequest) :
    (l.answer id now request).2.records =
      l.records.filter (Told.deleted? ⟨request, (l.answer id now request).1⟩ ≠ some ·.id) ++
        (Told.saved? ⟨request, (l.answer id now request).1⟩).toList.map DiskRecord.stored := by
  cases request with
  | save cid size properties =>
    unfold Ledger.answer
    dsimp only
    split
    · rename_i saved
      rw [(save_eq_ok saved).1]
      simp [Told.deleted?, Told.saved?]
    · simp [Told.deleted?, Told.saved?]
  | all | find _ | findCurrent => simp [Ledger.answer, Told.deleted?, Told.saved?]
  | updateCurrent other =>
    unfold Ledger.answer
    dsimp only
    split
    · rename_i done
      rw [(updateCurrent_eq_ok done).1]
      simp [Told.deleted?, Told.saved?]
    · simp [Told.deleted?, Told.saved?]
  | delete other =>
    simp [Ledger.answer, Ledger.delete, Told.deleted?, Told.saved?, eq_comm]

/-- What a request does to the pointer can be told from its answer. -/
theorem current_answer (request : RegistryRequest) (other : RecordId) :
    (l.answer id now request).2.current = some other ↔
      Told.marked? ⟨request, (l.answer id now request).1⟩ = some other ∨
        Told.marked? ⟨request, (l.answer id now request).1⟩ = none ∧
          Told.deleted? ⟨request, (l.answer id now request).1⟩ ≠ some other ∧
            l.current = some other := by
  cases request with
  | save cid size properties =>
    unfold Ledger.answer
    dsimp only
    split
    · rename_i saved
      rw [(save_eq_ok saved).1]
      simp [Told.deleted?, Told.marked?]
    · simp [Told.deleted?, Told.marked?]
  | all | find _ | findCurrent => simp [Ledger.answer, Told.deleted?, Told.marked?]
  | updateCurrent id =>
    unfold Ledger.answer
    dsimp only
    split
    · rename_i done
      rw [(updateCurrent_eq_ok done).1]
      simp [Told.marked?]
    · simp [Told.deleted?, Told.marked?]
  | delete id =>
    by_cases here : l.current = some id
    · simp [Ledger.answer, Ledger.delete, Told.deleted?, Told.marked?, here]
    · have apart : l.current = some other → id ≠ other := by
        rintro same rfl
        exact here same
      simpa [Ledger.answer, Ledger.delete, Told.deleted?, Told.marked?, here] using apart

/-- A record that is new on the list has the identifier that was given. -/
theorem id_of_saved? {request : RegistryRequest} {record : DiskRecord}
    (saved : Told.saved? ⟨request, (l.answer id now request).1⟩ = some record) :
    record.id = id ∧ ∃ cid size properties, request = .save cid size properties := by
  cases request with
  | save cid size properties =>
    refine ⟨?_, cid, size, properties, rfl⟩
    unfold Ledger.answer at saved
    dsimp only at saved
    split at saved
    · cases saved
      rfl
    · cases saved
  | _ => cases saved

end Ledger

/-! ## Steps -/

/-- The identifier that was minted for a step. -/
def FileStep.minted? : FileStep → Option RecordId
  | .ask id _ (.save _ _ _) => some id
  | _ => none

/-- What a step is relied on for: properties that are saved are read from their text as they were,
and the clock tells a time that there is. -/
def FileStep.Readable : FileStep → Prop
  | .ask _ now (.save _ _ properties) => properties.Unchanged ∧ now.IsReading
  | _ => True

/-- What steps are relied on for, which is also that all identifiers that are minted are
different. -/
structure Sane (steps : List FileStep) : Prop where
  minted : (steps.filterMap FileStep.minted?).Nodup
  readable : ∀ step ∈ steps, step.Readable

namespace Sane

variable {steps : List FileStep} {step : FileStep}

theorem before (sane : Sane (steps ++ [step])) : Sane steps where
  minted := by
    have minted := sane.minted
    rw [List.filterMap_append] at minted
    exact minted.of_append_left
  readable step mem := sane.readable step (List.mem_append_left _ mem)

/-- A list of records that were minted before admits the next step. -/
theorem admits {id : RecordId} {now : Timestamp} {request : RegistryRequest} {l : Ledger}
    (sane : Sane (steps ++ [.ask id now request]))
    (minted : ∀ record ∈ l.records, record.id ∈ steps.filterMap FileStep.minted?) :
    l.Admits id now request := by
  cases request with
  | save cid size properties =>
    refine ⟨?_, sane.readable (.ask id now (.save cid size properties)) (by simp)⟩
    have apart := sane.minted
    rw [List.filterMap_append, List.nodup_append] at apart
    exact fun record mem => apart.2.2 _ (minted record mem) id (by simp [FileStep.minted?])
  | _ => trivial

end Sane

/-- The tables, the registry and the list of records behind the same steps. -/
structure Agree (minted : List RecordId) (told : List Told) (t : Tables) (r : Registry)
    (l : Ledger) : Prop where
  kept : t.Kept
  registry : t.registry = r
  ledger : r = l.registry
  sound : l.Sound
  minted : ∀ record ∈ l.records, record.id ∈ minted
  records : l.records = survivors told
  current : ∀ id, l.current = some id ↔ Marks told id

namespace Agree

variable {minted : List RecordId} {told : List Told} {t : Tables} {r : Registry} {l : Ledger}

theorem start : Agree [] [] (RegistryFile.opened {}) {} {} where
  kept := Tables.kept_new
  registry := rfl
  ledger := rfl
  sound := Ledger.sound_empty
  minted := by simp
  records := rfl
  current id := by simp [Marks]

/-- Behind a request all three are still in step, and they gave the same answer. -/
theorem ask (agree : Agree minted told t r l) {id : RecordId} {now : Timestamp}
    {request : RegistryRequest} (admits : l.Admits id now request) :
    (r.answer id now request).1 = (t.answer id now request).1 ∧
      (l.answer id now request).1 = (t.answer id now request).1 ∧
      Agree (minted ++ (FileStep.ask id now request).minted?.toList)
        (told ++ [⟨request, (t.answer id now request).1⟩]) (t.answer id now request).2
        (r.answer id now request).2 (l.answer id now request).2 := by
  obtain ⟨tables, kept⟩ := agree.kept.answer_eq id now request
  rw [agree.registry] at tables
  have ledger := agree.sound.answer_eq admits
  rw [← agree.ledger] at ledger
  have answer : (l.answer id now request).1 = (t.answer id now request).1 :=
    congrArg Prod.fst (ledger.symm.trans tables.symm)
  refine ⟨congrArg Prod.fst tables.symm, answer, kept, congrArg Prod.snd tables,
    congrArg Prod.snd ledger, agree.sound.answer admits, ?_, ?_, fun other => ?_⟩
  · intro record mem
    rw [Ledger.records_answer, List.mem_append, List.mem_filter, List.mem_map] at mem
    rw [List.mem_append]
    rcases mem with ⟨old, -⟩ | ⟨saved, mem, rfl⟩
    · exact .inl (agree.minted record old)
    · obtain ⟨new, _, _, _, rfl⟩ := Ledger.id_of_saved? (Option.mem_toList.mp mem)
      exact .inr (by simp [FileStep.minted?, DiskRecord.stored, new])
  · rw [Ledger.records_answer, survivors_concat, agree.records, answer]
  · rw [Ledger.current_answer, marks_concat, agree.current, answer]

/-- A step keeps all three in step, and they tell the same. -/
theorem next (agree : Agree minted told t r l) {step : FileStep}
    (admits : ∀ id now request, step = .ask id now request → l.Admits id now request) :
    Registry.keeper.told r step = Tables.keeper.told t step ∧
      Ledger.keeper.told l step = Tables.keeper.told t step ∧
      Agree (minted ++ step.minted?.toList) (told ++ Tables.keeper.told t step)
        (Tables.keeper.next t step) (Registry.keeper.next r step)
        (Ledger.keeper.next l step) := by
  cases step with
  | reopen =>
    have opened : Tables.keeper.next t .reopen = t := agree.kept.reopen_eq
    refine ⟨rfl, rfl, ?_⟩
    rw [opened, show Tables.keeper.told t .reopen = [] from rfl, List.append_nil]
    exact (List.append_nil minted).symm ▸ agree
  | ask id now request =>
    obtain ⟨registry, ledger, agree⟩ := agree.ask (admits id now request rfl)
    refine ⟨congrArg (fun a => [Told.mk request a]) registry,
      congrArg (fun a => [Told.mk request a]) ledger, agree⟩

end Agree

/-- The tables of a file that was new, behind steps. -/
def tablesBehind (steps : List FileStep) : Tables :=
  Tables.keeper.reached (RegistryFile.opened {}) steps

/-- What a file that was new answered during steps. -/
def toldBy (steps : List FileStep) : List Told :=
  Tables.keeper.history (RegistryFile.opened {}) steps

/-- Behind any steps all three are in step, and they gave the same answers. -/
theorem agree_of_sane {steps : List FileStep} (sane : Sane steps) :
    Agree (steps.filterMap FileStep.minted?) (toldBy steps) (tablesBehind steps)
        (Registry.keeper.reached {} steps) (Ledger.keeper.reached {} steps) ∧
      Registry.keeper.history {} steps = toldBy steps ∧
      Ledger.keeper.history {} steps = toldBy steps := by
  induction steps using List.reverseRecOn with
  | nil => exact ⟨.start, rfl, rfl⟩
  | append_singleton steps step ih =>
    obtain ⟨agree, registry, ledger⟩ := ih sane.before
    obtain ⟨toldRegistry, toldLedger, agree⟩ := agree.next fun id now request here =>
      Sane.admits (here ▸ sane) agree.minted
    simp only [toldBy, tablesBehind, Keeper.reached_concat, Keeper.history_concat,
      List.filterMap_append] at agree registry ledger toldRegistry toldLedger ⊢
    rw [registry, ledger, toldRegistry, toldLedger]
    refine ⟨?_, rfl, rfl⟩
    have minted : [step].filterMap FileStep.minted? = step.minted?.toList := by
      cases here : step.minted? <;> simp [here]
    rw [minted]
    exact agree

/-- What the tables of a file and what it told come to, whatever was done with it. -/
structure Refined (steps : List FileStep) (t : Tables) (told : List Told) : Prop where
  /-- The registry tells the same, and so does the list of records. -/
  registry : Registry.keeper.history {} steps = told
  ledger : Ledger.keeper.history {} steps = told
  /-- The table holds what was saved and not deleted since, and nothing else. -/
  rows : t.disks.map (·.row) = (survivors told).map Registry.rowOf
  ids : (survivors told).Pairwise fun a b => a.id ≠ b.id
  cids : (survivors told).Pairwise fun a b => a.cid ≠ b.cid
  /-- A disk that is recorded already, or that is too large, is refused, and nothing changes. -/
  refused : ∀ id now cid size properties,
    Cell.maxInteger < size.toNat ∨ (∃ record ∈ survivors told, record.cid = cid) →
      ∃ e, t.answer id now (.save cid size properties) = (.error e, t)
  /-- Any other disk is recorded as it is given. -/
  accepted : ∀ id now cid size properties, (∀ record ∈ survivors told, record.id ≠ id) →
    size.toNat ≤ Cell.maxInteger → (∀ record ∈ survivors told, record.cid ≠ cid) →
      ∃ t', t.answer id now (.save cid size properties) = (.ok ⟨id, cid, size, properties, now⟩, t')
  find : ∀ cid, t.find cid = .ok ((survivors told).find? (·.cid = cid))
  all : ∃ listed, t.all = .ok listed ∧ Ledger.Lists (survivors told) listed
  /-- The current record is the one that was marked last, unless it was deleted since. -/
  marked : ∀ id, Marks told id →
    ∃ record ∈ survivors told, record.id = id ∧ t.findCurrent = .ok (some record)
  unmarked : (∀ id, ¬ Marks told id) → t.findCurrent = .ok none
  /-- A record that is not there cannot be marked, and the pointer stays. -/
  unknown : ∀ id now other, (∀ record ∈ survivors told, record.id ≠ other) →
    t.answer id now (.updateCurrent other) = (.error (.notFound other.text), t)
  /-- The pointer stays also if another record is deleted. -/
  others : ∀ id, t.current ≠ some id.text → (t.delete id).current = t.current

namespace Agree

variable {minted : List RecordId} {told : List Told} {t : Tables} {r : Registry} {l : Ledger}

/-- The tables hold the written form of the list. -/
theorem written (agree : Agree minted told t r l) : t.registry = l.registry :=
  agree.registry.trans agree.ledger

theorem refused (agree : Agree minted told t r l) {id : RecordId} {now : Timestamp} {cid : DiskCid}
    {size : UInt64} {properties : CloudProperties}
    (reason : Cell.maxInteger < size.toNat ∨ ∃ record ∈ l.records, record.cid = cid) :
    ∃ e, t.answer id now (.save cid size properties) = (.error e, t) := by
  obtain ⟨e, here, -⟩ | ⟨record, t', -, there, -⟩ :=
    agree.kept.save_eq id now cid size properties
  · exact ⟨e, by simp only [Tables.answer, here]⟩
  · obtain ⟨-, -, -, others⟩ := Registry.save_eq_ok there
    rw [agree.written] at others there
    rcases reason with large | ⟨known, mem, rfl⟩
    · unfold Registry.save at there
      rw [if_pos large] at there
      cases there
    · exact absurd rfl (others (Registry.rowOf known) (List.mem_map_of_mem mem))

theorem accepted (agree : Agree minted told t r l) {id : RecordId} {now : Timestamp} {cid : DiskCid}
    {size : UInt64} {properties : CloudProperties} (fresh : ∀ record ∈ l.records, record.id ≠ id)
    (fits : size.toNat ≤ Cell.maxInteger) (others : ∀ record ∈ l.records, record.cid ≠ cid) :
    ∃ t', t.answer id now (.save cid size properties) =
      (.ok ⟨id, cid, size, properties, now⟩, t') := by
  have saves : l.registry.save id now cid size properties =
      .ok (⟨id, cid, size, properties, now⟩, (Ledger.registry { l with
        records := l.records ++ [DiskRecord.stored ⟨id, cid, size, properties, now⟩] })) := by
    have absent : l.records.any (·.cid = cid) = false := by simpa using others
    rw [Ledger.Sound.save_eq id now cid size properties fresh, Ledger.save,
      if_neg (Int.not_lt.mpr fits), absent]
    rfl
  rw [← agree.written] at saves
  obtain ⟨e, -, there⟩ | ⟨record, t', here, there, -⟩ :=
    agree.kept.save_eq id now cid size properties
  · rw [saves] at there
    cases there
  · rw [saves] at there
    obtain rfl := (Prod.mk.inj (Except.ok.inj there)).1
    exact ⟨t', by simp only [Tables.answer, here]⟩

theorem unknown (agree : Agree minted told t r l) {id other : RecordId} {now : Timestamp}
    (absent : ∀ record ∈ l.records, record.id ≠ other) :
    t.answer id now (.updateCurrent other) = (.error (.notFound other.text), t) := by
  have refuses : l.registry.updateCurrent other = .error (.notFound other.text) := by
    have none : l.records.any (·.id = other) = false := by simpa using absent
    rw [Ledger.Sound.updateCurrent_eq, Ledger.updateCurrent, none]
    rfl
  rw [← agree.written] at refuses
  obtain ⟨e, here, there⟩ | ⟨t', -, there, -⟩ := agree.kept.updateCurrent_eq other
  · rw [refuses] at there
    cases there
    simp only [Tables.answer, here]
  · rw [refuses] at there
    cases there

/-- The record that the pointer names is found. -/
theorem marked (agree : Agree minted told t r l) {id : RecordId} (marked : l.current = some id) :
    ∃ record ∈ l.records, record.id = id ∧ t.findCurrent = .ok (some record) := by
  obtain ⟨record, mem, named⟩ := agree.sound.current id marked
  have present : (l.records.find? (·.id = id)).isSome = true :=
    List.find?_isSome.mpr ⟨record, mem, decide_eq_true named⟩
  obtain ⟨found, here⟩ := Option.isSome_iff_exists.mp present
  refine ⟨found, List.mem_of_find?_eq_some here, by simpa using List.find?_some here, ?_⟩
  rw [Tables.findCurrent_eq, agree.written, agree.sound.findCurrent_eq, Ledger.findCurrent, marked,
    Option.bind_some, here]

end Agree

/-- A registry file behaves as a list of records with a pointer. -/
theorem RegistryFile.refined {steps : List FileStep} (sane : Sane steps) :
    Refined steps (tablesBehind steps) (toldBy steps) := by
  obtain ⟨agree, registry, ledger⟩ := agree_of_sane sane
  have sound := agree.sound
  have written := agree.written
  refine {
    registry := registry
    ledger := ledger
    rows := ?rows
    ids := agree.records ▸ sound.ids
    cids := agree.records ▸ sound.cids
    refused := fun _ _ _ _ _ reason => agree.refused (agree.records ▸ reason)
    accepted := fun _ _ _ _ _ fresh fits others =>
      agree.accepted (agree.records ▸ fresh) fits (agree.records ▸ others)
    find := fun cid => ?find
    all := ?all
    marked := fun id marks => agree.records ▸ agree.marked ((agree.current id).mpr marks)
    unmarked := fun unmarked => ?unmarked
    unknown := fun _ _ _ absent => agree.unknown (agree.records ▸ absent)
    others := fun id other => ?others }
  case rows =>
    rw [← agree.records]
    exact congrArg Registry.rows written
  case find =>
    rw [Tables.find_eq, written, sound.find_eq, ← agree.records]
    rfl
  case all =>
    refine ⟨_, ?_, agree.records ▸ Ledger.lists_all _⟩
    rw [agree.kept.all_eq, written, sound.all_eq]
  case unmarked =>
    have none : (Ledger.keeper.reached {} steps).current = none :=
      Option.eq_none_iff_forall_ne_some.mpr fun id here => unmarked id ((agree.current id).mp here)
    rw [Tables.findCurrent_eq, written, sound.findCurrent_eq, Ledger.findCurrent, none]
    rfl
  case others =>
    have current := congrArg Registry.current (agree.kept.delete_eq id).1
    exact current.trans (if_neg other)

/-- A disk is saved at a time of so many milliseconds and some nanoseconds more. -/
def sampleSave (id millis : Nat) (cid : DiskCid) (size : UInt64) : FileStep :=
  .ask (.ofNat id) ⟨millis / 1000, millis % 1000 * 1000000 + 789⟩
    (.save cid size [("type", .string "ssd")])

/-- Something is asked that needs nothing fresh. -/
def sampleAsk (request : RegistryRequest) : FileStep := .ask default default request

/-- A clock that is put back, a disk that is recorded already and one that is too large, a current
disk that is deleted and whose number another gets, and a file that is closed in between. -/
def sampleSteps : List FileStep :=
  [sampleSave 1 5000 ⟨"disk-a", by decide⟩ 10, sampleSave 2 3000 ⟨"disk-b", by decide⟩ 20,
    sampleAsk (.updateCurrent (.ofNat 2)), .reopen, sampleSave 3 3000 ⟨"disk-a", by decide⟩ 30,
    sampleSave 4 3000 ⟨"disk-c", by decide⟩ 0x8000000000000000, sampleAsk (.delete (.ofNat 2)),
    sampleSave 5 3000 ⟨"disk-c", by decide⟩ 30, sampleSave 6 3000 ⟨"disk-d", by decide⟩ 40,
    sampleAsk (.updateCurrent (.ofNat 2)), sampleAsk (.updateCurrent (.ofNat 6)), .reopen]

theorem readable_sampleSave {id millis : Nat} {cid : DiskCid} {size : UInt64}
    (early : millis ≤ 10000) : (sampleSave id millis cid size).Readable := by
  have unchanged : CloudProperties.Unchanged [("type", .string "ssd")] := by
    unfold CloudProperties.Unchanged
    with_unfolding_all rfl
  have today : (millis / 1000 : Int).fdiv Timestamp.secondsPerDay = 0 := by
    rw [Int.fdiv_eq_ediv_of_nonneg _ (by decide)]
    unfold Timestamp.secondsPerDay
    omega
  refine ⟨unchanged, ?_, ?_, ?_⟩
  · show millis % 1000 * 1000000 + 789 < 1000000000
    omega
  · show Timestamp.firstDay ≤ (millis / 1000 : Int).fdiv Timestamp.secondsPerDay
    rw [today]
    decide +kernel
  · show (millis / 1000 : Int).fdiv Timestamp.secondsPerDay ≤ Timestamp.lastDay
    rw [today]
    decide +kernel

theorem sane_sampleSteps : Sane sampleSteps where
  minted := by decide +kernel
  readable := by
    simp only [sampleSteps, List.forall_mem_cons]
    exact ⟨readable_sampleSave (by decide), readable_sampleSave (by decide), trivial, trivial,
      readable_sampleSave (by decide), readable_sampleSave (by decide), trivial,
      readable_sampleSave (by decide), readable_sampleSave (by decide), trivial, trivial, trivial,
      by simp⟩

theorem RegistryFile.refined_sample :
    (tablesBehind sampleSteps).disks.map (fun r => (r.number, r.row.cid)) =
        [(1, "disk-a"), (2, "disk-c"), (3, "disk-d")] ∧
      (tablesBehind sampleSteps).current = some (RecordId.ofNat 6).text ∧
      Refined sampleSteps (tablesBehind sampleSteps) (toldBy sampleSteps) := by
  refine ⟨by decide +kernel, by decide +kernel, ?_⟩
  exact RegistryFile.refined sane_sampleSteps

end VmDeploy
