import VmDeploy.Proofs.Disk.Store

/-!
# No disk is orphaned

Whatever is ordered and whatever fails, each disk that was made and that the cloud still has is
recorded, but for those that were abandoned. A record goes only when its disk has gone: the
cloud has deleted it or says that there is none. A handle may be stale by then, but no other
disk ever gets its identifier.
-/

set_option autoImplicit false

namespace VmDeploy.Store

variable {past : List (Exchange Store)} {known : List Disk} {s s' : Store}

/-- The account of a session: the books, and that all handles are known. -/
def Kept (past : List (Exchange Store)) (s : Store) (known : List Disk) : Prop :=
  s.Books past ∧ ∀ disk ∈ known, s.Knows disk

theorem Kept.subset {known' : List Disk} (kept : Kept past s known) (fewer : known' ⊆ known) :
    Kept past s known' :=
  ⟨kept.1, fun disk mem => kept.2 disk (fewer mem)⟩

/-- A single call that only eases. -/
theorem Kept.eases {c : Exchange Store} (kept : Kept past s known) (eases : s.Eases s')
    (unmade : c.made? = none) (saved : c.unsaved? = none) :
    Kept (past ++ [c]) s' known :=
  ⟨kept.1.eases eases unmade saved, fun disk mem => (kept.2 disk mem).eases eases⟩

/-- A record that is read has a known handle. -/
theorem Books.knows {row : DiskRow} {record : DiskRecord} (books : Books past s)
    (mem : row ∈ s.registry.rows) (read : row.record = .ok record) :
    s.Knows (.ofRecord record) := by
  have own := books.sound.id_of_record mem read
  intro _
  constructor
  · obtain ⟨written, rfl, minted, -⟩ := books.owned row mem
    rwa [RecordId.text_injective (Option.some.inj own)] at minted
  · intro other here same
    rw [books.sound.eq_of_id here mem (same.trans own.symm)]
    exact (DiskRow.holds_of_record read).cid

/-- The handles on what a request finds are known. -/
theorem Books.knows_handles {request : RegistryRequest} {value : request.Value}
    (books : Books past s) (keeps : request.keepsRecords = true)
    (answered : environment s (.registry request) (.ok value) s') {disk : Disk}
    (mem : disk ∈ request.handles value) : s.Knows disk := by
  obtain ⟨r, answered, rfl⟩ := answered
  cases request with
  | save _ _ _ | delete _ => cases keeps
  | updateCurrent _ => cases mem
  | all =>
    obtain ⟨record, listed, rfl⟩ := List.mem_map.mp mem
    obtain ⟨row, here, read⟩ := Registry.row_of_all (Registry.Answers.all answered).2 listed
    exact books.knows here read
  | find cid =>
    obtain ⟨record, rfl, rfl⟩ := Option.map_eq_some_iff.mp (Option.mem_toList.mp mem)
    obtain ⟨row, here, read⟩ := Registry.row_of_find (Registry.Answers.find answered).2
    exact books.knows here read
  | findCurrent =>
    obtain ⟨record, rfl, rfl⟩ := Option.map_eq_some_iff.mp (Option.mem_toList.mp mem)
    rcases Registry.findCurrent_eq_ok (Registry.Answers.findCurrent answered).2 with
      ⟨_, none⟩ | ⟨row, _, here, same, read⟩
    · cases none
    · cases same
      exact books.knows (Registry.of_currentRow? here).1 read

theorem kept_account : DiskAccount environment Kept where
  quiet := environment_quiet
  subset := Kept.subset
  cloud {request} known keeps := by
    intro past s calls r s' kept run
    obtain ⟨answer, rfl, rfl, answered⟩ := Performs.run_cloud_iff.mp run
    have unmade : (Exchange.cloud s request answer).made? = none := by
      cases request with
      | createDisk _ _ _ | deleteDisk _ => cases keeps
      | _ => rfl
    have after := kept.eases (eases_of_cloud answered unmade) unmade rfl
    exact ⟨after, fun _ _ => (List.append_nil known).symm ▸ after⟩
  agent vm request known := by
    intro past s calls r s' kept run
    obtain ⟨answer, rfl, rfl, rfl⟩ := Performs.run_agent_iff.mp run
    have after := kept.eases (c := .agent s' vm request answer)
      ⟨rfl, List.Subset.refl _, rfl, rfl⟩ rfl rfl
    exact ⟨after, fun _ _ => (List.append_nil known).symm ▸ after⟩
  registry {request} known keeps := by
    intro past s calls r s' kept run
    obtain ⟨answer, rfl, rfl, answered⟩ := Performs.run_registry_iff.mp run
    have eases := eases_of_registry keeps answered
    have saved : (Exchange.registry s request answer).unsaved? = none := by
      cases request with
      | save _ _ _ | delete _ => cases keeps
      | _ => rfl
    have after := kept.eases eases rfl saved
    refine ⟨after, ?_⟩
    intro value ended
    obtain rfl := Result.mapError_eq_ok.mp ended
    refine ⟨after.1, ?_⟩
    intro disk mem
    rcases List.mem_append.mp mem with old | new
    · exact after.2 disk old
    · exact (kept.1.knows_handles keeps answered new).eases eases
  create pool vm known := by
    intro past s calls r s' kept run
    cases Inventory.creates_of_performs environment_quiet run with
    | @refused e f _ asked =>
      have refused : s.CloudAnswers (.createDisk pool.diskSize pool.cloudProperties vm)
        (.error e) s' := asked
      refine ⟨kept.eases (eases_of_cloud refused rfl) rfl rfl, ?_⟩
      intro disk ended
      cases ended
    | recorded made saved =>
      obtain ⟨books, new, old⟩ := kept.1.recorded made saved
      have known' := fun disk mem => old disk (kept.2 disk mem)
      refine ⟨⟨books, known'⟩, ?_⟩
      intro disk ended
      cases ended
      refine ⟨books, ?_⟩
      intro disk mem
      rcases List.mem_append.mp mem with before | here
      · exact known' disk before
      · rw [List.mem_singleton.mp here]
        exact new
    | withdrawn made unsaved deleted =>
      obtain ⟨books, old⟩ := kept.1.withdrawn made unsaved deleted
      refine ⟨⟨books, fun disk mem => old disk (kept.2 disk mem)⟩, ?_⟩
      intro disk ended
      cases ended
  untracked cid id now kept := by
    refine ⟨kept.1, ?_⟩
    intro disk mem
    rcases List.mem_append.mp mem with old | new
    · exact kept.2 disk old
    · rw [List.mem_singleton.mp new]
      intro tracked
      cases tracked

/-- The disk of a known handle may be deleted. -/
theorem Kept.delete {disk : Disk} (mem : disk ∈ known) :
    Keeps environment Kept known disk.delete fun _ => [] := by
  intro past s calls r s' kept run
  have after : Kept (past ++ calls) s' known := by
    cases Disk.deletes_of_performs environment_quiet run with
    | stopped asked _ =>
      exact kept.eases (eases_of_cloud asked rfl) rfl rfl
    | @forgotten answer _ s₁ _ asked gone tracked removed =>
      have middle := kept.eases (c := .cloud s (.deleteDisk disk.cid) answer)
        (eases_of_cloud asked rfl) rfl rfl
      obtain ⟨books, old⟩ := middle.1.forgotten (not_mem_live asked gone) tracked
        (middle.2 disk mem) removed
      rw [List.append_assoc] at books
      exact ⟨books, fun disk mem => old disk (middle.2 disk mem)⟩
  exact ⟨after, fun _ _ => (List.append_nil known).symm ▸ after⟩

/-- The sweep deletes disks that are known. -/
theorem Kept.sweep : Keeps environment Kept known Inventory.deleteUnused fun _ => [] := by
  have account := kept_account.toAccount
  refine .bind account (.inContext kept_account.findUnused) ?_
  intro disks
  refine .weaken account (.forM account ?_) fun _ => List.nil_subset _
  intro disk mem
  exact .deletionStep account (Kept.delete (List.mem_append_right _ mem))

/-- Behind every session that started with an empty registry, and whatever failed in it: of the
disks that the cloud has and that were made in the session those are not recorded that were
abandoned, and no others. -/
theorem live_unrecorded_iff_abandoned {orders : List Order} {calls : List (Exchange Store)}
    {u : Unit} (empty : s.registry = {}) (unmade : s.made = [])
    (run : Performs environment (session orders []) s calls u s') (cid : DiskCid)
    (live : cid ∈ s'.live) (made : ∃ c ∈ calls, c.made? = some cid) :
    ¬ s'.registry.Records cid ↔ Abandoned cid calls := by
  have start : Kept [] s [] := by
    refine ⟨⟨?_, ?_, ?_, ?_, ?_⟩, by simp⟩
    · exact empty ▸ Registry.Reachable.empty.sound
    · simp [empty]
    · simp [unmade]
    · simp
    · simp [unmade]
  obtain ⟨_, books, -⟩ := kept_account.session orders (fun _ => Kept.sweep)
    (fun _ _ _ _ _ mem => Kept.delete mem) start run
  rw [List.nil_append] at books
  constructor
  · intro unrecorded
    exact (books.kept cid ((books.made cid).mpr made) live).resolve_left unrecorded
  · intro abandoned
    exact (books.unsaved cid abandoned.unsaved).2

/-- Services with a registry that is out of order, and with a cloud that makes a disk and deletes
none. -/
def brokenServices (cid : DiskCid) : Program.Handler services Store
  | .cloud (.createDisk _ _ _), s =>
    if cid ∈ s.made then (Except.error (CloudError.exec "create_disk" "refused"), s)
    else (Except.ok (ε := CloudError) cid, { s with live := cid :: s.live, made := cid :: s.made })
  | .cloud (.deleteDisk _), s => (Except.error (CloudError.exec "delete_disk" "refused"), s)
  | q, s => (q.plainAnswer, s)

theorem environment_brokenServices (cid : DiskCid) (s : Store) (q : ServiceQuestion) :
    environment s q (brokenServices cid q s).1 (brokenServices cid q s).2 := by
  cases q with
  | cloud request =>
    cases request with
    | createDisk size properties vm =>
      by_cases old : cid ∈ s.made
      · simp only [brokenServices, old, if_true]
        rfl
      · simp only [brokenServices, old, if_false]
        exact ⟨old, rfl⟩
    | deleteDisk _ => exact ⟨fun (notFound : _ = true) => absurd notFound (by decide), rfl⟩
    | _ => rfl
  | registry request => exact ⟨s.registry, .inl ⟨_, rfl, rfl⟩, by cases request <;> rfl⟩
  | _ => rfl

/-- An order to such services. -/
def brokenSession : ServiceProgram Unit := session [.create ⟨"pool", 20, []⟩ Registry.sampleVm] []

/-- The calls by which a disk is abandoned. -/
def brokenCalls : List (Exchange Store) :=
  ServiceProgram.calls (brokenServices Registry.sampleDisk.cid) brokenSession ⟨{}, [], [], []⟩

/-- What is left behind them. -/
def brokenStore : Store :=
  (brokenSession.run (brokenServices Registry.sampleDisk.cid) ⟨{}, [], [], []⟩).2

theorem brokenSession_live_unrecorded_iff_abandoned :
    Registry.sampleDisk.cid ∈ brokenStore.live ∧
      (∃ c ∈ brokenCalls, c.made? = some Registry.sampleDisk.cid) ∧
        (¬ brokenStore.registry.Records Registry.sampleDisk.cid ↔
          Abandoned Registry.sampleDisk.cid brokenCalls) := by
  have run := Performs.of_run _ (environment_brokenServices Registry.sampleDisk.cid) brokenSession
    ⟨{}, [], [], []⟩
  have live : Registry.sampleDisk.cid ∈ brokenStore.live := by decide +kernel
  have made : ∃ c ∈ brokenCalls, c.made? = some Registry.sampleDisk.cid := by
    have any : brokenCalls.any (fun c => c.made? = some Registry.sampleDisk.cid) = true := by
      decide +kernel
    simpa using any
  exact ⟨live, made, live_unrecorded_iff_abandoned rfl rfl run _ live made⟩

end VmDeploy.Store
