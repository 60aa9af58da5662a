import VmDeploy.Proofs.Disk.Inventory
import VmDeploy.Proofs.Disk.Session
import VmDeploy.Proofs.Registry.Environment

/-!
# The cloud's disks and the registry

A `Store` is what there is of disks: those that the cloud has, and the registry. It also knows
which names the cloud has given so far and which identifiers were minted; neither are given or
minted again. In `Store.environment` a call that fails changes nothing, and the cloud says that
it has no such disk only if it has not.

`Store.Books` is how the two are kept in step, with regard to the calls made so far: a disk of
the cloud that was made by one of them is recorded, unless it was abandoned, which is to say
that neither could it be recorded nor then be deleted.
-/

set_option autoImplicit false

namespace VmDeploy

/-- The disks of the cloud and the registry, with what was given out so far. -/
structure Store where
  registry : Registry
  /-- The disks that the cloud has. -/
  live : List DiskCid
  /-- The names that the cloud has given to disks. -/
  made : List DiskCid
  /-- The identifiers of records that were saved. -/
  minted : List RecordId

/-- Whether a disk is recorded under a name. -/
def Registry.Records (r : Registry) (cid : DiskCid) : Prop := ∃ row ∈ r.rows, row.cid = cid.text

theorem Registry.records_append {r : Registry} {record : DiskRecord} {cid : DiskCid} :
    Registry.Records { r with rows := r.rows ++ [rowOf record] } cid ↔
      r.Records cid ∨ record.cid = cid := by
  have same : (rowOf record).cid = cid.text ↔ record.cid = cid :=
    ⟨CloudId.text_injective, fun heq => heq ▸ rfl⟩
  simp [Registry.Records, or_and_right, exists_or, same]

/-- The identifier that is used up by a request. -/
def RegistryRequest.minted : (request : RegistryRequest) → request.Answer → List RecordId
  | .save _ _ _, .ok record => [DiskRecord.id record]
  | _, _ => []

namespace Store

/-- What a cloud may answer, and what that makes of its disks. -/
def CloudAnswers (s : Store) : (request : CloudRequest) → request.Answer → Store → Prop
  | .createDisk _ _ _, .ok cid, s' =>
    cid ∉ s.made ∧ s' = { s with live := cid :: s.live, made := cid :: s.made }
  | .deleteDisk cid, .ok _, s' => s' = { s with live := s.live.filter (· ≠ cid) }
  | .deleteDisk cid, .error e, s' => (e.is .diskNotFound = true → cid ∉ s.live) ∧ s' = s
  | _, _, s' => s' = s

/-- Services that make and delete disks and keep records of them. -/
def environment : Environment services Store
  | s, .cloud request, answer, s' => s.CloudAnswers request answer s'
  | s, .registry request, answer, s' =>
    ∃ r, s.registry.Answers (· ∉ s.minted) request answer r ∧
      s' = { s with registry := r, minted := request.minted answer ++ s.minted }
  | s, _, _, s' => s' = s

theorem environment_quiet : environment.Quiet := by
  intro s q answer s' silent
  cases q with
  | cloud _ | agent _ _ | registry _ => cases silent
  | _ => exact Iff.rfl

/-- A handle is known if there is no other disk behind its identifier, now and later. -/
def Knows (s : Store) (disk : Disk) : Prop :=
  disk.tracked = true → disk.record.id ∈ s.minted ∧
    ∀ row ∈ s.registry.rows, row.id = some disk.record.id.text → row.cid = disk.cid.text

end Store

namespace Exchange

/-- The disk that the cloud makes by a call. -/
def made? {σ : Type} : Exchange σ → Option DiskCid
  | .cloud _ (.createDisk _ _ _) (.ok cid) => some cid
  | _ => none

/-- The disk that cannot be recorded by a call. -/
def unsaved? {σ : Type} : Exchange σ → Option DiskCid
  | .registry _ (.save cid _ _) (.error _) => some cid
  | _ => none

section

variable {σ : Type} {s : σ} {cid : DiskCid} {size : UInt64} {properties : CloudProperties}
  {vm : VmCid}

@[simp] theorem made?_createDisk :
    made? (.cloud s (.createDisk size properties vm) (.ok cid)) = some cid := rfl

@[simp] theorem made?_deleteDisk {answer : Except CloudError Unit} :
    made? (.cloud s (.deleteDisk cid) answer) = none := rfl

@[simp] theorem made?_registry {request : RegistryRequest} {answer : request.Answer} :
    made? (.registry s request answer) = none := rfl

@[simp] theorem unsaved?_createDisk {answer : (CloudRequest.createDisk size properties vm).Answer} :
    unsaved? (.cloud s (.createDisk size properties vm) answer) = none := rfl

@[simp] theorem unsaved?_deleteDisk {answer : Except CloudError Unit} :
    unsaved? (.cloud s (.deleteDisk cid) answer) = none := rfl

@[simp] theorem unsaved?_save_error {e : RegistryError} :
    unsaved? (.registry s (.save cid size properties) (.error e)) = some cid := rfl

@[simp] theorem unsaved?_save_ok {record : DiskRecord} :
    unsaved? (.registry s (.save cid size properties) (.ok record)) = none := rfl

end

end Exchange

/-- The calls by which a disk is abandoned: it is made, it cannot be recorded, and the deletion
fails that is to make up for it. -/
inductive Abandons {σ : Type} (cid : DiskCid) : List (Exchange σ) → Prop
  | mk {s₁ s₂ s₃ : σ} {size : UInt64} {properties : CloudProperties} {vm : VmCid}
      {saveError : RegistryError} {deleteError : CloudError} :
      Abandons cid [.cloud s₁ (.createDisk size properties vm) (.ok cid),
        .registry s₂ (.save cid size properties) (.error saveError),
        .cloud s₃ (.deleteDisk cid) (.error deleteError)]

/-- Whether a disk was abandoned by some of the calls. -/
def Abandoned {σ : Type} (cid : DiskCid) (calls : List (Exchange σ)) : Prop :=
  ∃ segment, Abandons cid segment ∧ segment <:+: calls

theorem Abandoned.append {σ : Type} {cid : DiskCid} {calls : List (Exchange σ)}
    (abandoned : Abandoned cid calls) (later : List (Exchange σ)) :
    Abandoned cid (calls ++ later) := by
  obtain ⟨segment, abandons, inside⟩ := abandoned
  exact ⟨segment, abandons, inside.trans (List.prefix_append _ _).isInfix⟩

theorem Abandoned.unsaved {σ : Type} {cid : DiskCid} {calls : List (Exchange σ)}
    (abandoned : Abandoned cid calls) : ∃ c ∈ calls, c.unsaved? = some cid := by
  obtain ⟨_, abandons, inside⟩ := abandoned
  cases abandons
  exact ⟨_, inside.subset (List.mem_cons_of_mem _ List.mem_cons_self), rfl⟩

namespace Store

/-- The registry and the cloud in step, with regard to the calls made so far. -/
structure Books (past : List (Exchange Store)) (s : Store) : Prop where
  sound : s.registry.Sound
  /-- Records have identifiers that were minted and are of disks that were made. -/
  owned : ∀ row ∈ s.registry.rows, ∃ record, row = Registry.rowOf record ∧
    record.id ∈ s.minted ∧ record.cid ∈ s.made
  made : ∀ cid, cid ∈ s.made ↔ ∃ c ∈ past, c.made? = some cid
  unsaved : ∀ cid, (∃ c ∈ past, c.unsaved? = some cid) → cid ∈ s.made ∧ ¬ s.registry.Records cid
  kept : ∀ cid ∈ s.made, cid ∈ s.live → s.registry.Records cid ∨ Abandoned cid past

/-- A step that makes and records no disk and takes no record away. -/
structure Eases (s s' : Store) : Prop where
  rows : s'.registry.rows = s.registry.rows
  live : s'.live ⊆ s.live
  made : s'.made = s.made
  minted : s'.minted = s.minted

variable {past : List (Exchange Store)} {s s' : Store} {c : Exchange Store}

/-- A call that has no part in it does not count. -/
theorem exists_mem_concat {part : Exchange Store → Option DiskCid} (other : part c = none)
    {cid : DiskCid} : (∃ b ∈ past ++ [c], part b = some cid) ↔ ∃ b ∈ past, part b = some cid := by
  simp [or_and_right, exists_or, other]

theorem Knows.eases {disk : Disk} (knows : s.Knows disk) (eases : s.Eases s') :
    s'.Knows disk := by
  intro tracked
  obtain ⟨minted, rows⟩ := knows tracked
  exact ⟨eases.minted ▸ minted, eases.rows ▸ rows⟩

theorem Books.eases (books : Books past s) (eases : s.Eases s')
    (unmade : c.made? = none) (saved : c.unsaved? = none) :
    Books (past ++ [c]) s' := by
  obtain ⟨rows, live, made, minted⟩ := eases
  have records (cid : DiskCid) : s'.registry.Records cid ↔ s.registry.Records cid := by
    unfold Registry.Records
    rw [rows]
  refine ⟨books.sound.of_rows rows, ?_, ?_, ?_, ?_⟩
  · rw [rows, made, minted]
    exact books.owned
  · intro cid
    rw [made]
    exact (books.made cid).trans (exists_mem_concat unmade).symm
  · intro cid earlier
    rw [made, records]
    exact books.unsaved cid ((exists_mem_concat saved).mp earlier)
  · intro cid mem here
    rw [records]
    exact (books.kept cid (made ▸ mem) (live here)).imp_right fun abandoned => abandoned.append _

/-! ## What the calls do to the books -/

/-- A call of the cloud that makes no disk only eases. -/
theorem eases_of_cloud {request : CloudRequest} {answer : request.Answer}
    (answered : s.CloudAnswers request answer s')
    (unmade : (Exchange.cloud s request answer).made? = none) : s.Eases s' := by
  have same (heq : s' = s) : s.Eases s' := heq ▸ ⟨rfl, List.Subset.refl _, rfl, rfl⟩
  cases request with
  | createDisk _ _ _ =>
    cases answer with
    | ok cid => cases unmade
    | error e => exact same answered
  | deleteDisk cid =>
    cases answer with
    | ok _ =>
      obtain rfl := answered
      exact ⟨rfl, List.filter_sublist.subset, rfl, rfl⟩
    | error e => exact same answered.2
  | _ => exact same answered

/-- A request that keeps the records only eases. -/
theorem eases_of_registry {request : RegistryRequest} {answer : request.Answer}
    (keeps : request.keepsRecords = true)
    (answered : environment s (.registry request) answer s') : s.Eases s' := by
  obtain ⟨r, answered, rfl⟩ := answered
  have rows : r.rows = s.registry.rows := by
    cases answered.effect with
    | unchanged | marked => rfl
    | saved _ _ | removed => cases keeps
  refine ⟨rows, List.Subset.refl _, rfl, ?_⟩
  cases request with
  | save _ _ _ | delete _ => cases keeps
  | _ => rfl

/-- Behind a deletion that left no disk there is none. -/
theorem not_mem_live {cid : DiskCid} {answer : Except CloudError Unit}
    (answered : s.CloudAnswers (.deleteDisk cid) answer s') (gone : Disk.Gone answer) :
    cid ∉ s'.live := by
  cases answer with
  | ok _ =>
    obtain rfl := answered
    simp
  | error e =>
    obtain ⟨notFound, rfl⟩ := answered
    exact notFound gone

/-- A disk that is made and recorded. -/
theorem Books.recorded {size size' : UInt64} {properties properties' : CloudProperties} {vm : VmCid}
    {cid : DiskCid} {record : DiskRecord} {s₁ : Store} (books : Books past s)
    (made : s.CloudAnswers (.createDisk size properties vm) (.ok cid) s₁)
    (saved : environment s₁ (.registry (.save cid size' properties')) (.ok record) s') :
    Books (past ++ [.cloud s (.createDisk size properties vm) (.ok cid),
      .registry s₁ (.save cid size' properties') (.ok record)]) s' ∧
    s'.Knows (.ofRecord record) ∧ ∀ disk, s.Knows disk → s'.Knows disk := by
  obtain ⟨isNew, rfl⟩ := made
  obtain ⟨r, answered, rfl⟩ := saved
  obtain ⟨id, now, fresh, saved⟩ := Registry.Answers.save answered
  obtain ⟨heq, rfl, ids, cids⟩ := Registry.save_eq_ok saved
  have hid : record.id = id := by rw [heq]
  have hcid : record.cid = cid := by rw [heq]
  subst hid hcid
  refine ⟨⟨books.sound.append ids cids, ?_, ?_, ?_, ?_⟩, ?_, ?_⟩
  · intro row mem
    rcases List.mem_append.mp mem with old | new
    · obtain ⟨own, written, minted, named⟩ := books.owned row old
      exact ⟨own, written, List.mem_cons_of_mem _ minted, List.mem_cons_of_mem _ named⟩
    · exact ⟨record, List.mem_singleton.mp new, List.mem_cons_self, List.mem_cons_self⟩
  · intro cid
    rw [List.mem_cons, books.made cid, eq_comm (a := cid)]
    simp [or_and_right, exists_or, or_comm]
  · intro cid earlier
    have before : ∃ c ∈ past, c.unsaved? = some cid := by
      simpa [or_and_right, exists_or] using earlier
    obtain ⟨named, absent⟩ := books.unsaved cid before
    refine ⟨List.mem_cons_of_mem _ named, ?_⟩
    rw [Registry.records_append]
    rintro (old | rfl)
    · exact absent old
    · exact isNew named
  · intro cid named here
    rw [Registry.records_append]
    rcases List.mem_cons.mp named with rfl | before
    · exact .inl (.inr rfl)
    rcases List.mem_cons.mp here with rfl | alive
    · exact .inl (.inr rfl)
    · exact (books.kept cid before alive).imp .inl fun abandoned => abandoned.append _
  · intro _
    refine ⟨List.mem_cons_self, ?_⟩
    intro row mem same
    rcases List.mem_append.mp mem with old | new
    · exact absurd same (ids row old)
    · rw [List.mem_singleton.mp new]
      rfl
  · intro disk knows tracked
    obtain ⟨minted, rows⟩ := knows tracked
    refine ⟨List.mem_cons_of_mem _ minted, ?_⟩
    intro row mem same
    rcases List.mem_append.mp mem with old | new
    · exact rows row old same
    · -- The new identifier is fresh, so it is not that of a handle that was known before.
      rw [List.mem_singleton.mp new] at same
      rw [← RecordId.text_injective (Option.some.inj same)] at minted
      exact absurd minted fresh

/-- A disk that is made and not recorded, and whose deletion is asked for. -/
theorem Books.withdrawn {size : UInt64} {properties : CloudProperties} {vm : VmCid}
    {cid : DiskCid} {e : RegistryError} {answer : Except CloudError Unit} {s₁ s₂ : Store}
    (books : Books past s)
    (made : s.CloudAnswers (.createDisk size properties vm) (.ok cid) s₁)
    (unsaved : environment s₁ (.registry (.save cid size properties)) (.error e) s₂)
    (deleted : s₂.CloudAnswers (.deleteDisk cid) answer s') :
    Books (past ++ [.cloud s (.createDisk size properties vm) (.ok cid),
      .registry s₁ (.save cid size properties) (.error e),
      .cloud s₂ (.deleteDisk cid) answer]) s' ∧
    ∀ disk, s.Knows disk → s'.Knows disk := by
  obtain ⟨isNew, rfl⟩ := made
  obtain ⟨r, answered, rfl⟩ := unsaved
  obtain rfl := answered.eq_of_error
  have absent : ¬ s.registry.Records cid := by
    rintro ⟨row, mem, named⟩
    obtain ⟨record, rfl, -, own⟩ := books.owned row mem
    exact isNew (CloudId.text_injective named ▸ own)
  obtain ⟨rows, live, named, minted⟩ := eases_of_cloud deleted rfl
  have rows : s'.registry.rows = s.registry.rows := rows
  have live : s'.live ⊆ cid :: s.live := live
  have named : s'.made = cid :: s.made := named
  have minted : s'.minted = s.minted := minted
  have records (cid : DiskCid) : s'.registry.Records cid ↔ s.registry.Records cid := by
    unfold Registry.Records
    rw [rows]
  refine ⟨⟨books.sound.of_rows rows, ?_, ?_, ?_, ?_⟩, ?_⟩
  · rw [rows, named, minted]
    intro row mem
    obtain ⟨own, written, known, was⟩ := books.owned row mem
    exact ⟨own, written, known, List.mem_cons_of_mem _ was⟩
  · intro cid'
    rw [named, List.mem_cons, books.made cid', eq_comm (a := cid')]
    simp [or_and_right, exists_or, or_comm]
  · intro cid' earlier
    rw [named, records, List.mem_cons]
    have before : (∃ c ∈ past, c.unsaved? = some cid') ∨ cid = cid' := by
      simpa [or_and_right, exists_or] using earlier
    rcases before with before | rfl
    · obtain ⟨was, none⟩ := books.unsaved cid' before
      exact ⟨.inr was, none⟩
    · exact ⟨.inl rfl, absent⟩
  · intro cid' mem here
    rw [records]
    by_cases same : cid' = cid
    · subst same
      cases answer with
      | ok _ => exact absurd here (not_mem_live deleted trivial)
      | error e' => exact .inr ⟨_, .mk, (List.suffix_append _ _).isInfix⟩
    · have was : cid' ∈ s.made := (List.mem_cons.mp (named ▸ mem)).resolve_left same
      have alive : cid' ∈ s.live := (List.mem_cons.mp (live here)).resolve_left same
      exact (books.kept cid' was alive).imp_right fun abandoned => abandoned.append _
  · intro disk knows tracked
    obtain ⟨known, was⟩ := knows tracked
    rw [rows, minted]
    exact ⟨known, was⟩

/-- A record that is removed, of a disk that is gone. -/
theorem Books.forgotten {disk : Disk} {answer : Except RegistryError Unit} (books : Books past s)
    (gone : disk.cid ∉ s.live) (tracked : disk.tracked = true) (knows : s.Knows disk)
    (removed : environment s (.registry (.delete disk.record.id)) answer s') :
    Books (past ++ [.registry s (.delete disk.record.id) answer]) s' ∧
      ∀ other, s.Knows other → s'.Knows other := by
  obtain ⟨r, answered, rfl⟩ := removed
  cases answered.effect with
  | unchanged =>
    have eases : s.Eases { s with registry := s.registry } :=
      ⟨rfl, List.Subset.refl _, rfl, rfl⟩
    exact ⟨books.eases eases rfl rfl, fun _ knows => knows.eases eases⟩
  | removed =>
    have fewer : (s.registry.delete disk.record.id).rows ⊆ s.registry.rows :=
      List.filter_sublist.subset
    refine ⟨⟨books.sound.delete _, ?_, ?_, ?_, ?_⟩, ?_⟩
    · intro row mem
      exact books.owned row (fewer mem)
    · intro cid
      exact (books.made cid).trans (exists_mem_concat rfl).symm
    · intro cid earlier
      obtain ⟨named, absent⟩ :=
        books.unsaved cid ((exists_mem_concat rfl).mp earlier)
      refine ⟨named, ?_⟩
      rintro ⟨row, mem, same⟩
      exact absent ⟨row, fewer mem, same⟩
    · intro cid named here
      refine (books.kept cid named here).imp ?_ fun abandoned => abandoned.append _
      rintro ⟨row, mem, same⟩
      refine ⟨row, List.mem_filter.mpr ⟨mem, ?_⟩, same⟩
      -- The row is that of another disk, as the one behind the identifier is gone.
      have other : row.id ≠ some disk.record.id.text := by
        intro mine
        have theirs := (knows tracked).2 row mem mine
        rw [same] at theirs
        exact gone (CloudId.text_injective theirs ▸ here)
      simpa using other
    · intro other known isTracked
      obtain ⟨minted, rows⟩ := known isTracked
      exact ⟨minted, fun row mem => rows row (fewer mem)⟩

end Store

end VmDeploy
