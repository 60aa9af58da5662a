import VmDeploy.Proofs.Disk.Inventory
import VmDeploy.Proofs.Disk.Session
import VmDeploy.Proofs.Registry.Environment

/-!
# The current disk is not deleted

The sweep of unused disks spares the current one: identifiers and names of rows are unique, so
what differs from the current record in its identifier differs from it in its name, and the
removal of another record leaves the pointer.

The making of a disk asks for a deletion too, of a disk that could not be recorded. A name that
the cloud has given before is recorded already, so if the cloud gives the name of the current
disk to a new one, the deletion asked for is that of the current disk. Such a `Collision` is the
only case.
-/

set_option autoImplicit false

namespace VmDeploy

namespace Registry

/-- Whether a disk has neither the identifier nor the name of the current one. -/
def Unused (r : Registry) (disk : Disk) : Prop :=
  ∀ row, r.currentRow? = some row → row.cid ≠ disk.cid.text ∧ row.id ≠ some disk.record.id.text

/-- A record that differs from the current one in its identifier is that of an unused disk. -/
theorem Sound.unused {r : Registry} (sound : r.Sound) {current : Option DiskRecord}
    (found : r.findCurrent = .ok current) {row : DiskRow} (mem : row ∈ r.rows)
    {record : DiskRecord} (read : row.record = .ok record)
    (other : ∀ c, current = some c → c.id ≠ record.id) : r.Unused (.ofRecord record) := by
  intro now here
  rcases findCurrent_eq_ok found with ⟨none, -⟩ | ⟨_, c, here', isCurrent, readNow⟩
  · rw [here] at none
    cases none
  rw [here, Option.some.injEq] at here'
  subst here'
  have mine := sound.id_of_record (of_currentRow? here).1 readNow
  have ids : now.id ≠ some record.id.text := by
    rw [mine]
    intro same
    exact other c isCurrent (RecordId.text_injective (Option.some.inj same))
  refine ⟨?_, ids⟩
  intro cids
  have named := (DiskRow.holds_of_record read).cid
  rw [sound.eq_of_cid (of_currentRow? here).1 mem (cids.trans named.symm)] at ids
  exact ids (sound.id_of_record mem read)

end Registry

namespace Exchange

/-- Whether a name is that of the current disk. -/
def IsCurrent (r : Registry) (cid : DiskCid) : Prop :=
  r.currentRow?.map DiskRow.cid = some cid.text

instance (r : Registry) (cid : DiskCid) : Decidable (IsCurrent r cid) :=
  inferInstanceAs (Decidable (_ = _))

/-- The cloud is asked to delete the current disk. -/
def DeletesCurrent : Exchange Registry → Prop
  | .cloud r (.deleteDisk cid) _ => IsCurrent r cid
  | _ => False

instance : DecidablePred DeletesCurrent
  | .cloud r (.deleteDisk cid) _ => inferInstanceAs (Decidable (IsCurrent r cid))
  | .cloud _ (.hasVm _) _ | .cloud _ (.deleteVm _) _ | .cloud _ (.createDisk _ _ _) _
  | .cloud _ (.attachDisk _ _) _ | .cloud _ (.detachDisk _ _) _ | .cloud _ (.deleteStemcell _) _
  | .agent _ _ _ _ | .registry _ _ _ => inferInstanceAs (Decidable False)

/-- The cloud gives the name of the current disk to a new one. -/
def NamesCurrent : Exchange Registry → Prop
  | .cloud r (.createDisk _ _ _) (.ok cid) => IsCurrent r cid
  | _ => False

end Exchange

/-- The calls of the making of a disk that is given the name of the current one: it cannot be
recorded, and its deletion is asked for. -/
inductive Collision : Exchange Registry → Exchange Registry → Exchange Registry → Prop
  | mk {r : Registry} {size : UInt64} {properties : CloudProperties} {vm : VmCid} {cid : DiskCid}
      {e : RegistryError} {answer : Except CloudError Unit}
      (current : Exchange.IsCurrent r cid) :
      Collision (.cloud r (.createDisk size properties vm) (.ok cid))
        (.registry r (.save cid size properties) (.error e)) (.cloud r (.deleteDisk cid) answer)

/-- Calls that leave the current disk alone but for collisions. -/
inductive Spares : List (Exchange Registry) → Prop
  | nil : Spares []
  | call {c : Exchange Registry} {calls : List (Exchange Registry)}
      (deletes : ¬ c.DeletesCurrent) (names : ¬ c.NamesCurrent) (rest : Spares calls) :
      Spares (c :: calls)
  | collision {made refused deleted : Exchange Registry} {calls : List (Exchange Registry)}
      (collision : Collision made refused deleted) (rest : Spares calls) :
      Spares (made :: refused :: deleted :: calls)

namespace Spares

variable {calls before after : List (Exchange Registry)} {c : Exchange Registry}

theorem append (first : Spares before) (second : Spares after) : Spares (before ++ after) := by
  induction first with
  | nil => exact second
  | call deletes names _ ih => exact .call deletes names ih
  | collision collision _ ih => exact .collision collision ih

/-- If the current disk is deleted, there was a collision. -/
theorem collision_of_deletes (spares : Spares calls) (here : calls = before ++ c :: after)
    (deletes : c.DeletesCurrent) :
    ∃ earlier made refused, before = earlier ++ [made, refused] ∧ Collision made refused c := by
  induction spares generalizing before with
  | nil => simp at here
  | call harmless _ _ ih =>
    rcases before with _ | ⟨b, before⟩
    · cases here
      exact absurd deletes harmless
    · rw [List.cons_append, List.cons.injEq] at here
      obtain ⟨earlier, made, refused, rfl, collision⟩ := ih here.2
      exact ⟨b :: earlier, made, refused, rfl, collision⟩
  | collision collision _ ih =>
    -- Of the three calls of a collision only the last one deletes.
    rcases before with _ | ⟨b₁, _ | ⟨b₂, _ | ⟨b₃, before⟩⟩⟩
    · cases here
      cases collision
      exact deletes.elim
    · cases here
      cases collision
      exact deletes.elim
    · cases here
      exact ⟨[], _, _, rfl, collision⟩
    · injection here with _ here
      injection here with _ here
      injection here with _ here
      obtain ⟨earlier, made, refused, rfl, collision⟩ := ih here
      exact ⟨b₁ :: b₂ :: b₃ :: earlier, made, refused, rfl, collision⟩

/-- If the name of the current disk is given again, there is a collision. -/
theorem collision_of_names (spares : Spares calls) (here : calls = before ++ c :: after)
    (names : c.NamesCurrent) :
    ∃ refused deleted later, after = refused :: deleted :: later ∧
      Collision c refused deleted := by
  induction spares generalizing before with
  | nil => simp at here
  | call _ harmless _ ih =>
    rcases before with _ | ⟨b, before⟩
    · cases here
      exact absurd names harmless
    · rw [List.cons_append, List.cons.injEq] at here
      exact ih here.2
  | collision collision _ ih =>
    rcases before with _ | ⟨b₁, _ | ⟨b₂, _ | ⟨b₃, before⟩⟩⟩
    · cases here
      exact ⟨_, _, _, rfl, collision⟩
    · cases here
      cases collision
      exact names.elim
    · cases here
      cases collision
      exact names.elim
    · injection here with _ here
      injection here with _ here
      injection here with _ here
      exact ih here

end Spares

/-! ## What keeps the current disk -/

section

variable {r r' : Registry} {calls : List (Exchange Registry)}

/-- The making of a disk leaves the current one alone, or the cloud gives its name again. -/
theorem Inventory.Creates.spares {pool : DiskPool} {vm : VmCid} {result : Except Failure Disk}
    (creates : Inventory.Creates Registry.environment pool vm r calls result r') :
    Spares calls := by
  cases creates with
  | refused _ => exact .call id id .nil
  | @recorded cid record r₁ _ made saved =>
    cases made
    obtain ⟨_, _, _, done⟩ := Registry.Answers.save saved
    refine .call id ?_ (.call id id .nil)
    intro current
    obtain ⟨row, here, named⟩ := Option.map_eq_some_iff.mp current
    exact (Registry.save_eq_ok done).2.2.2 row (Registry.of_currentRow? here).1 named
  | @withdrawn cid e answer f r₁ r₂ _ made unsaved deleted =>
    cases made
    obtain rfl := Registry.Answers.eq_of_error unsaved
    by_cases current : Exchange.IsCurrent r₂ cid
    · exact .collision (.mk current) .nil
    · exact .call id current (.call id id (.call current id .nil))

/-- The deletion of an unused disk leaves the current one alone, and the pointer to it. -/
theorem Disk.Deletes.spares {disk : Disk} (unused : r.Unused disk)
    (deletes : Disk.Deletes Registry.environment disk r calls r') :
    Spares calls ∧ r'.currentRow? = r.currentRow? := by
  have other : ¬ Exchange.IsCurrent r disk.cid := by
    intro current
    obtain ⟨row, here, named⟩ := Option.map_eq_some_iff.mp current
    exact (unused row here).1 named
  cases deletes with
  | stopped asked _ =>
    cases asked
    exact ⟨.call other id .nil, rfl⟩
  | @forgotten answer answer' r₁ _ asked _ _ removed =>
    cases asked
    refine ⟨.call other id (.call id id .nil), ?_⟩
    have answered : r.Answers _ (.delete disk.record.id) answer' r' := removed
    cases answered.effect with
    | unchanged => rfl
    | removed => exact Registry.currentRow?_delete fun row here => (unused row here).2

/-- The disks that are found to be unused are. -/
theorem Inventory.unused_of_performs {disks : List Disk} (sound : r.Sound)
    (run : Performs Registry.environment Inventory.findUnused.run r calls (.ok disks) r') :
    r' = r ∧ ∀ disk ∈ disks, r.Unused disk := by
  rcases Performs.run_bind_iff.mp run with
    ⟨_, failed, _⟩ | ⟨records, r₁, _, _, rfl, listed, after⟩
  · cases failed
  obtain ⟨rfl, answered⟩ :=
    Performs.run_registry_ok_iff.mp (Performs.run_inContext_ok_iff.mp listed)
  obtain ⟨rfl, all⟩ := Registry.Answers.all answered
  rcases Performs.run_bind_iff.mp after with
    ⟨_, failed, _⟩ | ⟨current, r₂, _, _, rfl, read, last⟩
  · cases failed
  obtain ⟨rfl, answered'⟩ :=
    Performs.run_registry_ok_iff.mp (Performs.run_inContext_ok_iff.mp read)
  obtain ⟨rfl, found⟩ := Registry.Answers.findCurrent answered'
  obtain ⟨rfl, heq, rfl⟩ := Performs.run_pure_iff.mp last
  cases heq
  refine ⟨rfl, ?_⟩
  intro disk mem
  obtain ⟨record, unused, rfl⟩ := List.mem_map.mp mem
  obtain ⟨here, other⟩ := List.mem_filter.mp unused
  obtain ⟨row, rowMem, rowRead⟩ := Registry.row_of_all all here
  refine sound.unused found rowMem rowRead ?_
  rintro c rfl
  simpa using other

/-- The sweep leaves the current disk alone. -/
theorem Inventory.spares_of_sweep {disks : List Disk} {result : Except Failure Unit}
    (unused : ∀ disk ∈ disks, r.Unused disk)
    (run : Performs Registry.environment (disks.forM Inventory.deleteUnusedDisk).run r calls
      result r') : Spares calls := by
  have quiet := Registry.environment_quiet
  induction disks generalizing r calls with
  | nil =>
    obtain ⟨rfl, -, -⟩ := Performs.run_pure_iff.mp run
    exact .nil
  | cons disk disks ih =>
    have first {r₁ cs result} (deleted : Performs Registry.environment
        (Inventory.deleteUnusedDisk disk).run r cs result r₁) :
        Spares cs ∧ r₁.currentRow? = r.currentRow? := by
      obtain ⟨_, _, ran⟩ := (Performs.run_deletionStep_iff quiet).mp deleted
      exact (Disk.deletes_of_performs quiet ran).spares (unused disk List.mem_cons_self)
    rcases Performs.run_bind_iff.mp run with
      ⟨_, rfl, failed⟩ | ⟨_, r₁, _, _, rfl, deleted, later⟩
    · exact (first failed).1
    · obtain ⟨spares, same⟩ := first deleted
      refine spares.append (ih ?_ later)
      intro other mem row here
      exact unused other (List.mem_cons_of_mem _ mem) row (same ▸ here)

end

/-- The account of the current disk: the registry is one that requests lead to, and the calls so
far have spared the disk that was current. -/
def Sparing (past : List (Exchange Registry)) (r : Registry) (_ : List Disk) : Prop :=
  r.Reachable ∧ Spares past

/-- A request that makes and removes nothing keeps the account. -/
theorem Sparing.keeps {α : Type} {known : List Disk} {x : Action α} {yields : α → List Disk}
    (spares : ∀ r calls result r', r.Reachable →
      Performs Registry.environment x.run r calls result r' → Spares calls) :
    Keeps Registry.environment Sparing known x yields := by
  rintro past r calls result r' ⟨reachable, before⟩ run
  have after : Sparing (past ++ calls) r' known :=
    ⟨Registry.reachable_of_performs run reachable,
      before.append (spares r calls result r' reachable run)⟩
  exact ⟨after, fun _ _ => after⟩

theorem sparing_account : DiskAccount Registry.environment Sparing where
  quiet := Registry.environment_quiet
  subset holds _ := holds
  cloud {request} known keeps := by
    refine Sparing.keeps ?_
    intro r calls result r' _ run
    obtain ⟨answer, -, rfl, -⟩ := Performs.run_cloud_iff.mp run
    cases request with
    | createDisk _ _ _ | deleteDisk _ => cases keeps
    | _ => exact .call id id .nil
  agent vm request known := by
    refine Sparing.keeps ?_
    intro r calls result r' _ run
    obtain ⟨answer, -, rfl, -⟩ := Performs.run_agent_iff.mp run
    exact .call id id .nil
  registry known _ := by
    refine Sparing.keeps ?_
    intro r calls result r' _ run
    obtain ⟨answer, -, rfl, -⟩ := Performs.run_registry_iff.mp run
    exact .call id id .nil
  create pool vm known := by
    refine Sparing.keeps ?_
    intro r calls result r' _ run
    exact (Inventory.creates_of_performs Registry.environment_quiet run).spares
  untracked _ _ _ holds := holds

theorem Sparing.sweep (known : List Disk) :
    Keeps Registry.environment Sparing known Inventory.deleteUnused fun _ => [] := by
  refine Sparing.keeps ?_
  intro r calls result r' reachable run
  have found {cs result r₁} (ran : Performs Registry.environment
      (Action.inContext "Finding unused disks" Inventory.findUnused).run r cs result r₁) :
      Spares cs := by
    have start : Sparing [] r known := ⟨reachable, .nil⟩
    exact ((sparing_account.findUnused.inContext start ran).1).2
  rcases Performs.run_bind_iff.mp run with
    ⟨_, rfl, failed⟩ | ⟨disks, r₁, _, _, rfl, listed, swept⟩
  · exact found failed
  · obtain ⟨rfl, unused⟩ := Inventory.unused_of_performs reachable.sound
      (Performs.run_inContext_ok_iff.mp listed)
    exact (found listed).append (Inventory.spares_of_sweep unused swept)

/-- In a session in which no disk is deleted by its handle, the deletion of the current disk is
asked for if and only if the cloud has given its name again. -/
theorem deletesCurrent_iff_collision {orders : List Order} {known : List Disk}
    (spared : ∀ order ∈ orders, order.isDelete = false) {r r' : Registry}
    (reachable : r.Reachable) {calls : List (Exchange Registry)} {u : Unit}
    (run : Performs Registry.environment (session orders known) r calls u r') :
    (∀ before c after, calls = before ++ c :: after → c.DeletesCurrent →
      ∃ earlier made refused, before = earlier ++ [made, refused] ∧ Collision made refused c) ∧
    (∀ before c after, calls = before ++ c :: after → c.NamesCurrent →
      ∃ refused deleted later, after = refused :: deleted :: later ∧
        Collision c refused deleted) := by
  have deletion : ∀ o ∈ orders, o.isDelete = true → ∀ known, ∀ disk ∈ known,
      Keeps Registry.environment Sparing known disk.delete fun _ => [] := by
    intro o mem isDelete
    rw [spared o mem] at isDelete
    cases isDelete
  have start : Sparing [] r known := ⟨reachable, .nil⟩
  obtain ⟨_, -, spares⟩ := sparing_account.session orders Sparing.sweep deletion start run
  rw [List.nil_append] at spares
  exact ⟨fun _ _ _ here => spares.collision_of_deletes here,
    fun _ _ _ here => spares.collision_of_names here⟩

/-- A disk is ordered, and the cloud gives it the name of the current one. -/
def namesake : ServiceProgram Unit := session [.create ⟨"pool", 20, []⟩ Registry.sampleVm] []

/-- Services whose cloud knows one name for disks. -/
def namesakeServices : Program.Handler services Registry :=
  Registry.attend Registry.sampleDisk.cid (.ofNat 2) fun _ => false

/-- The calls by which the current disk is deleted. -/
def namesakeCalls : List (Exchange Registry) :=
  ServiceProgram.calls namesakeServices namesake (.ofCurrent Registry.sampleDisk)

theorem performs_namesake :
    Performs Registry.environment namesake (.ofCurrent Registry.sampleDisk) namesakeCalls ()
      (namesake.run namesakeServices (.ofCurrent Registry.sampleDisk)).2 :=
  .of_run _ (Registry.environment_attend _ _ _) _ _

theorem namesake_deletesCurrent_iff_collision :
    (Registry.ofCurrent Registry.sampleDisk).Reachable ∧
    (∀ before c after, namesakeCalls = before ++ c :: after → c.DeletesCurrent →
      ∃ earlier made refused, before = earlier ++ [made, refused] ∧ Collision made refused c) ∧
    (∀ before c after, namesakeCalls = before ++ c :: after → c.NamesCurrent →
      ∃ refused deleted later, after = refused :: deleted :: later ∧
        Collision c refused deleted) :=
  have reachable := Registry.reachable_ofCurrent (by decide)
  ⟨reachable, deletesCurrent_iff_collision (by decide) reachable performs_namesake⟩

/-- The making of a disk may delete the current one. -/
theorem current_disk_deleted :
    ¬ ∀ (orders : List Order) (known : List Disk) (r r' : Registry)
      (calls : List (Exchange Registry)) (u : Unit),
      (∀ order ∈ orders, order.isDelete = false) → r.Reachable →
        Performs Registry.environment (session orders known) r calls u r' →
          ∀ c ∈ calls, ¬ c.DeletesCurrent := by
  intro claim
  have spared := claim _ _ _ _ _ _ (by decide) (Registry.reachable_ofCurrent (by decide))
    performs_namesake
  have deleted : namesakeCalls.any (fun c => c.DeletesCurrent) = true := by decide +kernel
  obtain ⟨c, mem, deletes⟩ := List.any_eq_true.mp deleted
  exact spared c mem (of_decide_eq_true deletes)

end VmDeploy
