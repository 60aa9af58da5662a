import Mathlib.Data.List.Pairwise
import VmDeploy.Proofs.Registry.Rows
import VmDeploy.Proofs.Services.Calls

/-!
# The registry among services that may do anything

`Registry.environment` is the environment in which only the registry is known: the cloud
and the agents answer what they like. A request to the registry is answered by its tables,
or it fails with any error and changes nothing. An identifier is minted afresh for a record;
in particular it is not the one that the pointer still holds.

`Registry.Reachable` holds of the registries that requests lead to from an empty one. They
are sound: every row was written for a record, and no two rows share an identifier or a
name (`Reachable.sound`).
-/

set_option autoImplicit false

namespace VmDeploy

namespace Registry

/-- What a registry may answer to a request, and what that makes of it. -/
def Answers (fresh : RecordId → Prop) (r : Registry) (request : RegistryRequest)
    (answer : request.Answer) (r' : Registry) : Prop :=
  (∃ e, answer = .error e ∧ r' = r) ∨
    ∃ id now, fresh id ∧ r.answer id now request = (answer, r')

/-- The services around a registry of which nothing else is known. -/
def environment : Environment services Registry
  | r, .registry request, answer, r' =>
    r.Answers (fun id => r.current ≠ some id.text) request answer r'
  | r, _, _, r' => r' = r

theorem environment_quiet : environment.Quiet := by
  intro r q answer r' silent
  cases q with
  | cloud _ | agent _ _ | registry _ => cases silent
  | _ => exact Iff.rfl

/-- Answers requests by the tables, with one identifier to mint. It is not minted for a row that
the pointer already waits for. -/
def serve (id : RecordId) (now : Timestamp) (request : RegistryRequest) (r : Registry) :
    request.Answer × Registry :=
  if r.current = some id.text then (.error (.invalid "identifier in use"), r)
  else r.answer id now request

theorem environment_serve (id : RecordId) (now : Timestamp) (r : Registry)
    (request : RegistryRequest) :
    environment r (.registry request) (serve id now request r).1 (serve id now request r).2 := by
  unfold serve
  split
  · exact .inl ⟨_, rfl, rfl⟩
  · rename_i fresh
    exact .inr ⟨id, now, fresh, rfl⟩

/-- The registries that requests lead to. -/
inductive Reachable : Registry → Prop
  | empty : Reachable {}
  | answer {r : Registry} (before : Reachable r) (id : RecordId) (now : Timestamp)
      (request : RegistryRequest) : Reachable (r.answer id now request).2

/-- Rows that were written for records, with identifiers and names of their own. -/
structure Sound (r : Registry) : Prop where
  written : ∀ row ∈ r.rows, ∃ record, row = rowOf record
  ids : r.rows.Pairwise fun a b => a.id ≠ b.id
  cids : r.rows.Pairwise fun a b => a.cid ≠ b.cid

section Answers

variable {fresh : RecordId → Prop} {r r' : Registry}

/-- A request that fails changes nothing. -/
theorem Answers.eq_of_error {request : RegistryRequest} {e : RegistryError}
    (answered : r.Answers fresh request (.error e) r') : r' = r := by
  rcases answered with ⟨_, _, same⟩ | ⟨id, now, _, answered⟩
  · exact same
  · cases request with
    | save cid size properties =>
      simp only [Registry.answer] at answered
      split at answered <;> cases answered
      rfl
    | updateCurrent id =>
      simp only [Registry.answer] at answered
      split at answered <;> cases answered
      rfl
    | all | find _ | findCurrent => exact (congrArg Prod.snd answered).symm
    | delete _ => cases answered

theorem Answers.save {cid : DiskCid} {size : UInt64} {properties : CloudProperties}
    {record : DiskRecord} (answered : r.Answers fresh (.save cid size properties) (.ok record) r') :
    ∃ id now, fresh id ∧ r.save id now cid size properties = .ok (record, r') := by
  rcases answered with ⟨_, failed, _⟩ | ⟨id, now, isFresh, answered⟩
  · cases failed
  · refine ⟨id, now, isFresh, ?_⟩
    simp only [Registry.answer] at answered
    split at answered
    · rename_i saved
      cases answered
      exact saved
    · cases answered

theorem Answers.all {records : List DiskRecord}
    (answered : r.Answers fresh .all (.ok records) r') : r' = r ∧ r.all = .ok records := by
  rcases answered with ⟨_, failed, _⟩ | ⟨_, _, _, answered⟩
  · cases failed
  · exact ⟨(congrArg Prod.snd answered).symm, congrArg Prod.fst answered⟩

theorem Answers.find {cid : DiskCid} {record : Option DiskRecord}
    (answered : r.Answers fresh (.find cid) (.ok record) r') :
    r' = r ∧ r.find cid = .ok record := by
  rcases answered with ⟨_, failed, _⟩ | ⟨_, _, _, answered⟩
  · cases failed
  · exact ⟨(congrArg Prod.snd answered).symm, congrArg Prod.fst answered⟩

theorem Answers.findCurrent {record : Option DiskRecord}
    (answered : r.Answers fresh .findCurrent (.ok record) r') :
    r' = r ∧ r.findCurrent = .ok record := by
  rcases answered with ⟨_, failed, _⟩ | ⟨_, _, _, answered⟩
  · cases failed
  · exact ⟨(congrArg Prod.snd answered).symm, congrArg Prod.fst answered⟩

theorem Answers.updateCurrent {id : RecordId}
    (answered : r.Answers fresh (.updateCurrent id) (.ok ()) r') :
    r.updateCurrent id = .ok r' := by
  rcases answered with ⟨_, failed, _⟩ | ⟨_, _, _, answered⟩
  · cases failed
  · simp only [Registry.answer] at answered
    split at answered
    · rename_i done
      cases answered
      exact done
    · cases answered

theorem Answers.delete {id : RecordId} (answered : r.Answers fresh (.delete id) (.ok ()) r') :
    r' = r.delete id := by
  rcases answered with ⟨_, failed, _⟩ | ⟨_, _, _, answered⟩
  · cases failed
  · exact (congrArg Prod.snd answered).symm

/-- What answers make of a registry. -/
inductive Effect (fresh : RecordId → Prop) (r : Registry) :
    (request : RegistryRequest) → request.Answer → Registry → Prop
  | unchanged {request : RegistryRequest} {answer : request.Answer} :
      Effect fresh r request answer r
  | saved {cid : DiskCid} {size : UInt64} {properties : CloudProperties} {record : DiskRecord}
      {r' : Registry} {id : RecordId} {now : Timestamp} (isFresh : fresh id)
      (saved : r.save id now cid size properties = .ok (record, r')) :
      Effect fresh r (.save cid size properties) (.ok record) r'
  | marked {id : RecordId} :
      Effect fresh r (.updateCurrent id) (.ok ()) { r with current := some id.text }
  | removed {id : RecordId} : Effect fresh r (.delete id) (.ok ()) (r.delete id)

theorem Answers.effect {request : RegistryRequest} {answer : request.Answer}
    (answered : r.Answers fresh request answer r') : Effect fresh r request answer r' := by
  cases answer with
  | error e =>
    rw [answered.eq_of_error]
    exact .unchanged
  | ok value =>
    cases request with
    | save cid size properties =>
      obtain ⟨id, now, isFresh, saved⟩ := Answers.save answered
      exact .saved isFresh saved
    | all =>
      rw [(Answers.all answered).1]
      exact .unchanged
    | find cid =>
      rw [(Answers.find answered).1]
      exact .unchanged
    | findCurrent =>
      rw [(Answers.findCurrent answered).1]
      exact .unchanged
    | updateCurrent id =>
      obtain ⟨-, rfl⟩ := updateCurrent_eq_ok (Answers.updateCurrent answered)
      exact .marked
    | delete id =>
      rw [Answers.delete answered]
      exact .removed

theorem Answers.reachable {request : RegistryRequest} {answer : request.Answer}
    (answered : r.Answers fresh request answer r') (before : r.Reachable) : r'.Reachable := by
  rcases answered with ⟨_, _, rfl⟩ | ⟨id, now, _, answered⟩
  · exact before
  · have after := before.answer id now request
    rwa [answered] at after

end Answers

section Calls

variable {c : Exchange Registry} {r : Registry}

/-- A call that removes no record leaves all rows in their places. -/
theorem rows_prefix_of_leads (leads : c.Leads environment r)
    (keeps : ∀ id, c.question ≠ .registry (.delete id)) : c.before.rows <+: r.rows := by
  cases c with
  | cloud _ _ _ | agent _ _ _ _ =>
    cases leads
    exact List.prefix_rfl
  | registry before request answer =>
    cases Answers.effect leads with
    | unchanged | marked => exact List.prefix_rfl
    | saved _ saved =>
      obtain ⟨_, rfl, _⟩ := save_eq_ok saved
      exact List.prefix_append _ _
    | removed => exact absurd rfl (keeps _)

/-- A call that neither removes a record nor moves the pointer leaves the current row. -/
theorem currentRow?_of_leads (leads : c.Leads environment r)
    (keeps : ∀ id, c.question ≠ .registry (.delete id))
    (unmoved : ∀ id, c.question = .registry (.updateCurrent id) → c.failed = true) :
    r.currentRow? = c.before.currentRow? := by
  cases c with
  | cloud _ _ _ | agent _ _ _ _ =>
    cases leads
    rfl
  | registry before request answer =>
    cases Answers.effect leads with
    | unchanged => rfl
    | saved isFresh saved =>
      obtain ⟨rfl, rfl, _⟩ := save_eq_ok saved
      refine currentRow?_append ?_
      intro row mem
      rw [List.mem_singleton.mp mem]
      exact isFresh.symm
    | marked => cases unmoved _ rfl
    | removed => exact absurd rfl (keeps _)

end Calls

/-- The registry stays reachable in every run. -/
theorem reachable_of_performs {α : Type} {p : ServiceProgram α} {r r' : Registry}
    {calls : List (Exchange Registry)} {a : α}
    (run : Performs environment p r calls a r') : r.Reachable → r'.Reachable := by
  obtain ⟨ms, run, -⟩ := run
  refine run.related (R := fun r r' => r.Reachable → r'.Reachable) (fun _ => id)
    (fun first second => second ∘ first) ?_
  rintro ⟨r, q, answer⟩ - r₁ answered before
  cases q with
  | registry request => exact Answers.reachable answered before
  | _ => cases answered; exact before

/-! ## Soundness -/

section

variable {r : Registry} {a b : DiskRow}

/-- A row is found by its identifier. -/
theorem Sound.eq_of_id (sound : r.Sound) (ha : a ∈ r.rows) (hb : b ∈ r.rows) (same : a.id = b.id) :
    a = b := by
  have symm : Std.Symm fun a b : DiskRow => a.id ≠ b.id := ⟨fun _ _ => Ne.symm⟩
  by_contra other
  exact sound.ids.forall ha hb other same

/-- A row is found by its name. -/
theorem Sound.eq_of_cid (sound : r.Sound) (ha : a ∈ r.rows) (hb : b ∈ r.rows)
    (same : a.cid = b.cid) : a = b := by
  have symm : Std.Symm fun a b : DiskRow => a.cid ≠ b.cid := ⟨fun _ _ => Ne.symm⟩
  by_contra other
  exact sound.cids.forall ha hb other same

/-- A record that is read has the identifier of its row. -/
theorem Sound.id_of_record (sound : r.Sound) (mem : a ∈ r.rows) {record : DiskRecord}
    (read : a.record = .ok record) : a.id = some record.id.text := by
  obtain ⟨written, rfl⟩ := sound.written a mem
  rw [DiskRow.id_of_record rfl read]
  rfl

end

theorem Sound.of_rows {r r' : Registry} (sound : r.Sound) (rows : r'.rows = r.rows) : r'.Sound :=
  ⟨rows ▸ sound.written, rows ▸ sound.ids, rows ▸ sound.cids⟩

theorem Sound.append {r : Registry} (sound : r.Sound) {record : DiskRecord}
    (ids : ∀ row ∈ r.rows, row.id ≠ some record.id.text)
    (cids : ∀ row ∈ r.rows, row.cid ≠ record.cid.text) :
    Sound { r with rows := r.rows ++ [rowOf record] } where
  written row mem := by
    rcases List.mem_append.mp mem with old | new
    · exact sound.written row old
    · exact ⟨record, List.mem_singleton.mp new⟩
  ids := by
    refine List.pairwise_append.mpr ⟨sound.ids, List.pairwise_singleton _ _, ?_⟩
    intro row mem new hnew
    rw [List.mem_singleton.mp hnew]
    exact ids row mem
  cids := by
    refine List.pairwise_append.mpr ⟨sound.cids, List.pairwise_singleton _ _, ?_⟩
    intro row mem new hnew
    rw [List.mem_singleton.mp hnew]
    exact cids row mem

theorem Sound.delete {r : Registry} (sound : r.Sound) (id : RecordId) : (r.delete id).Sound where
  written row mem := sound.written row ((List.mem_filter.mp mem).1)
  ids := sound.ids.filter _
  cids := sound.cids.filter _

/-- Every request leaves a sound registry sound. -/
theorem Sound.answer {r : Registry} (sound : r.Sound) (id : RecordId) (now : Timestamp)
    (request : RegistryRequest) : (r.answer id now request).2.Sound := by
  cases request with
  | save cid size properties =>
    simp only [Registry.answer]
    split
    · rename_i saved
      obtain ⟨rfl, rfl, ids, cids⟩ := save_eq_ok saved
      exact sound.append ids cids
    · exact sound
  | updateCurrent id =>
    simp only [Registry.answer]
    split
    · rename_i done
      obtain ⟨-, rfl⟩ := updateCurrent_eq_ok done
      exact { sound with }
    · exact sound
  | delete id => exact sound.delete id
  | all | find _ | findCurrent => exact sound

theorem Reachable.sound {r : Registry} (reachable : r.Reachable) : r.Sound := by
  induction reachable with
  | empty => exact ⟨by simp, .nil, .nil⟩
  | answer _ id now request ih => exact ih.answer id now request

/-! ## Deployments with one disk -/

/-- The registry of a deployment with one disk, which is the current one. -/
def ofCurrent (record : DiskRecord) : Registry where
  rows := [rowOf record]
  current := some record.id.text

@[simp] theorem currentRow?_ofCurrent (record : DiskRecord) :
    (ofCurrent record).currentRow? = some (rowOf record) := by
  simp [currentRow?, ofCurrent, rowOf]

theorem reachable_ofCurrent {record : DiskRecord} (fits : ¬ Cell.maxInteger < record.size.toNat) :
    (ofCurrent record).Reachable := by
  have saved := Reachable.empty.answer record.id record.createdAt
    (.save record.cid record.size record.cloudProperties)
  have marked := saved.answer record.id record.createdAt (.updateCurrent record.id)
  simpa [Registry.answer, Registry.save, fits, Registry.updateCurrent, rowOf, ofCurrent]
    using marked

/-- A cloud that makes disks of one name and refuses some requests. -/
def cloudAnswer (cid : DiskCid) (refuses : CloudRequest → Bool) (request : CloudRequest) :
    request.Answer :=
  if refuses request then .error (.exec request.method "refused")
  else
    match request with
    | .createDisk _ _ _ => Except.ok (ε := CloudError) cid
    | request => (ServiceQuestion.cloud request).plainAnswer

/-- Services with such a cloud and a registry that mints one identifier. All else goes well. -/
def attend (cid : DiskCid) (id : RecordId) (refuses : CloudRequest → Bool) :
    Program.Handler services Registry
  | .registry request, r => serve id ⟨0, 0⟩ request r
  | .cloud request, r => (cloudAnswer cid refuses request, r)
  | q, r => (q.plainAnswer, r)

theorem environment_attend (cid : DiskCid) (id : RecordId) (refuses : CloudRequest → Bool)
    (r : Registry) (q : ServiceQuestion) :
    environment r q (attend cid id refuses q r).1 (attend cid id refuses q r).2 := by
  cases q with
  | registry request => exact environment_serve id ⟨0, 0⟩ r request
  | _ => rfl

/-- A VM to look at, and its disk. -/
def sampleVm : VmCid := ⟨"vm-1", by decide⟩

@[inherit_doc sampleVm]
def sampleDisk : DiskRecord := ⟨.ofNat 1, ⟨"disk-1", by decide⟩, 10, [], ⟨0, 0⟩⟩

end Registry

end VmDeploy
