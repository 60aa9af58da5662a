import VmDeploy.ApplySpec.Json
import VmDeploy.Disk.Record
import VmDeploy.Manifest.Json
import VmDeploy.Proofs.Id.Text
import VmDeploy.Proofs.Json.Forms

/-!
# The documents that are exchanged

Manifests and the settings beside them, apply specs, what agents say of their state, and the
records of disks are all exchanged in faithful forms (`Documents`).

The maps in these values are finite maps, which are kept as their entries in ascending order of
their keys. Where a type holds maps, `Kept` says that all of them are.
-/

set_option autoImplicit false

namespace VmDeploy

open Json (Decoder Fields Faithful)
open Json.Decoder (list_ofList keyed_object keyed_any uint16_ofNat uint32_ofNat uint64_ofNat
  orNull_string reading_string record_object_iff yields_keyed)
open Json.Fields (yields_any)

/-! ## Manifests -/

theorem TemplateRef.decoder_toJson (t : TemplateRef) : decoder t.toJson = .ok t :=
  record_object_iff.mpr (.seq (.map mk (.required rfl rfl)) (.required rfl rfl))

theorem JobNetwork.decoder_toJson (n : JobNetwork) : decoder n.toJson = .ok n :=
  record_object_iff.mpr
    (.seq (.map mk (.required rfl rfl)) (.optional (list_ofList fun _ _ => rfl) rfl))

/-- The properties are kept in order. -/
def Job.Kept (j : Job) : Prop := j.properties.Ascending

theorem Job.decoder_toJson (j : Job) (kept : j.Kept) : decoder j.toJson = .ok j := by
  refine record_object_iff.mpr ?_
  exact .seq (.seq (.seq (.seq (.seq (.seq (.map mk
    (.required rfl rfl))
    (.optional (uint32_ofNat j.instances) rfl))
    (.optional (list_ofList fun t _ => t.decoder_toJson) rfl))
    (.optional (list_ofList fun n _ => n.decoder_toJson) rfl))
    (.optional (uint64_ofNat j.persistentDisk) rfl))
    (.optional (orNull_string j.persistentDiskPool) rfl))
    (.optional (keyed_any kept) rfl)

/-- Whatever a job is read from, its properties are put in order. -/
theorem Job.yields : Job.decoder.Yields Job.Kept := by
  refine .record ?_
  exact .seq (.seq (.seq (.seq (.seq (.seq (.map yields_any (by intros; assumption))
    yields_any) yields_any) yields_any) yields_any) yields_any)
    (.optional yields_keyed Keyed.ascending_nil)

/-- The properties are kept in order. -/
def DiskPool.Kept (p : DiskPool) : Prop := p.cloudProperties.Ascending

theorem DiskPool.decoder_toJson (p : DiskPool) (kept : p.Kept) : decoder p.toJson = .ok p := by
  refine record_object_iff.mpr ?_
  exact .seq (.seq (.map mk
    (.required rfl rfl))
    (.required (uint64_ofNat p.diskSize) rfl))
    (.optional (keyed_any kept) rfl)

theorem DiskPool.yields : DiskPool.decoder.Yields DiskPool.Kept := by
  refine .record ?_
  exact .seq (.seq (.map yields_any (by intros; assumption)) yields_any)
    (.optional yields_keyed Keyed.ascending_nil)

theorem WatchTime.decoder_toJson (w : WatchTime) : decoder w.toJson = .ok w :=
  record_object_iff.mpr
    (.seq (.map mk (.required (uint64_ofNat w.start) rfl)) (.required (uint64_ofNat w.finish) rfl))

theorem UpdateSettings.decoder_toJson (u : UpdateSettings) : decoder u.toJson = .ok u :=
  record_object_iff.mpr (.map mk (.optional u.updateWatchTime.decoder_toJson rfl))

/-- The properties of all jobs and pools are kept in order. -/
def Manifest.Kept (m : Manifest) : Prop := (∀ j ∈ m.jobs, j.Kept) ∧ ∀ p ∈ m.diskPools, p.Kept

theorem Manifest.decoder_toJson (m : Manifest) (kept : m.Kept) : decoder m.toJson = .ok m := by
  refine record_object_iff.mpr ?_
  exact .seq (.seq (.seq (.map mk
    (.required rfl rfl))
    (.optional (list_ofList fun j mem => j.decoder_toJson (kept.1 j mem)) rfl))
    (.optional (list_ofList fun p mem => p.decoder_toJson (kept.2 p mem)) rfl))
    (.optional m.update.decoder_toJson rfl)

theorem Manifest.yields : Manifest.decoder.Yields Manifest.Kept := by
  refine .record ?_
  exact .seq (.seq (.seq (.map yields_any fun _ _ _ jobs _ pools _ _ => ⟨jobs, pools⟩)
    (.optional Job.yields.list nofun)) (.optional DiskPool.yields.list nofun)) yields_any

theorem SettingsServer.decoder_toJson (s : SettingsServer) : decoder s.toJson = .ok s := by
  refine record_object_iff.mpr ?_
  exact .seq (.seq (.seq (.map mk
    (.optional rfl rfl))
    (.optional rfl rfl))
    (.optional rfl rfl))
    (.optional (uint16_ofNat s.port) rfl)

theorem TunnelAccess.decoder_toJson (t : TunnelAccess) : decoder t.toJson = .ok t := by
  refine record_object_iff.mpr ?_
  exact .seq (.seq (.seq (.seq (.map mk
    (.optional rfl rfl))
    (.optional (uint16_ofNat t.port) rfl))
    (.optional rfl rfl))
    (.optional rfl rfl))
    (.optional rfl rfl)

/-! ## Apply specs -/

/-- The entry of a text does not stand under another key. -/
theorem Blob.find?_entryUnlessEmpty_of_ne {key other value : String} (different : other ≠ key) :
    Keyed.find? key (entryUnlessEmpty other value) = none := by
  unfold entryUnlessEmpty
  split
  · rfl
  · simp [Keyed.find?, different]

/-- A text whose entry is left out where it is empty is read as empty where it is missing. -/
theorem Blob.reads_entryUnlessEmpty {key value : String} {entries : Keyed Json}
    (found : Keyed.find? key entries = Keyed.find? key (entryUnlessEmpty key value)) :
    (Fields.optional key Decoder.string "").Reads entries value := by
  by_cases empty : value = ""
  · subst empty
    exact .missing (found.trans rfl)
  · have entry : Keyed.find? key entries = some (.string value) := by
      rw [found]
      simp [entryUnlessEmpty, empty, Keyed.find?]
    exact .optional rfl entry

theorem Blob.decoder_toJson (b : Blob) : decoder b.toJson = .ok b := by
  refine record_object_iff.mpr (.seq (.seq (.seq (.map mk
    (.required (v := .string b.name) rfl ?_)) (.required (v := .string b.version) rfl ?_))
    (reads_entryUnlessEmpty ?_)) (reads_entryUnlessEmpty ?_)) <;>
  simp [Keyed.find?_append, Keyed.find?, find?_entryUnlessEmpty_of_ne]

theorem Archive.decoder_toJson (a : Archive) : decoder a.toJson = .ok a :=
  record_object_iff.mpr (.seq (.map mk (.required rfl rfl)) (.required rfl rfl))

theorem AppliedJob.decoder_toJson (j : AppliedJob) : decoder j.toJson = .ok j :=
  record_object_iff.mpr
    (.seq (.map mk (.required rfl rfl)) (.required (list_ofList fun b _ => b.decoder_toJson) rfl))

/-- Packages are read back by name. -/
theorem keyed_packagesToJson {packages : Keyed Blob} (ascending : packages.Ascending) :
    Decoder.keyed Blob.decoder (packagesToJson packages) = .ok packages :=
  keyed_object ascending Blob.decoder_toJson

/-- The networks and the packages are kept in order. -/
def ApplySpec.Kept (s : ApplySpec) : Prop := s.networks.Ascending ∧ s.packages.Ascending

theorem ApplySpec.decoder_toJson (s : ApplySpec) (kept : s.Kept) : decoder s.toJson = .ok s := by
  refine record_object_iff.mpr ?_
  exact .seq (.seq (.seq (.seq (.seq (.seq (.map mk
    (.required rfl rfl))
    (.required (uint32_ofNat s.index) rfl))
    (.required (keyed_any kept.1) rfl))
    (.required s.job.decoder_toJson rfl))
    (.required (keyed_packagesToJson kept.2) rfl))
    (.required s.renderedTemplatesArchive.decoder_toJson rfl))
    (.required rfl rfl)

theorem ApplySpec.yields : ApplySpec.decoder.Yields ApplySpec.Kept := by
  refine .record ?_
  exact .seq (.seq (.seq (.seq (.seq (.seq
    (.map yields_any fun _ _ _ _ _ networks _ _ _ packages _ _ _ _ => ⟨networks, packages⟩)
    yields_any) (.required yields_keyed)) yields_any) (.required yields_keyed)) yields_any)
    yields_any

/-- The packages are kept in order. -/
def StemcellApplySpec.Kept (s : StemcellApplySpec) : Prop := s.packages.Ascending

theorem StemcellApplySpec.decoder_toJson (s : StemcellApplySpec) (kept : s.Kept) :
    decoder s.toJson = .ok s :=
  record_object_iff.mpr (.seq (.map mk
    (.optional s.job.decoder_toJson rfl))
    (.optional (keyed_packagesToJson kept) rfl))

theorem StemcellApplySpec.yields : StemcellApplySpec.decoder.Yields StemcellApplySpec.Kept := by
  refine .record ?_
  exact .seq (.map yields_any (by intros; assumption))
    (.optional yields_keyed Keyed.ascending_nil)

theorem AgentState.decoder_toJson (s : AgentState) : decoder s.toJson = .ok s :=
  record_object_iff.mpr (.map mk (.required rfl rfl))

/-! ## Records of disks -/

/-- The text of a point in time is read as that point. -/
def Timestamp.ReadsBack (t : Timestamp) : Prop := parse t.text = .ok t

/-- The properties are kept in order. -/
def DiskRecord.Kept (r : DiskRecord) : Prop := r.cloudProperties.Ascending

theorem RecordId.decoder_toJson (id : RecordId) : decoder id.toJson = .ok id :=
  reading_string id.parse_text

theorem CloudId.decoder_toJson {kind : Resource} (id : CloudId kind) :
    decoder id.toJson = .ok id :=
  reading_string id.parse_text

theorem Timestamp.decoder_text {t : Timestamp} (readsBack : t.ReadsBack) :
    decoder (.string t.text) = .ok t := by
  rw [decoder, readsBack]

theorem DiskRecord.decoder_toJson (r : DiskRecord) (kept : r.Kept)
    (readsBack : r.createdAt.ReadsBack) : decoder r.toJson = .ok r := by
  refine record_object_iff.mpr ?_
  exact .seq (.seq (.seq (.seq (.map mk
    (.required r.id.decoder_toJson rfl))
    (.required r.cid.decoder_toJson rfl))
    (.required (uint64_ofNat r.size) rfl))
    (.required (keyed_any kept) rfl))
    (.required (Timestamp.decoder_text readsBack) rfl)

theorem DiskRecord.yields : DiskRecord.decoder.Yields DiskRecord.Kept := by
  refine .record ?_
  exact .seq (.seq (.seq (.seq (.map yields_any fun _ _ _ _ _ _ _ kept _ _ => kept)
    yields_any) yields_any) (.required yields_keyed)) yields_any

/-! ## All of them -/

/-- The documents are exchanged in faithful forms. Of points in time it is assumed that their texts
are read back. -/
structure Documents : Prop where
  manifest : Faithful Manifest.Kept (fun _ => True) Manifest.toJson Manifest.decoder
  settingsServer :
    Faithful (fun _ => True) (fun _ => True) SettingsServer.toJson SettingsServer.decoder
  tunnelAccess : Faithful (fun _ => True) (fun _ => True) TunnelAccess.toJson TunnelAccess.decoder
  agentState : Faithful (fun _ => True) (fun _ => True) AgentState.toJson AgentState.decoder
  applySpec : Faithful ApplySpec.Kept (fun _ => True) ApplySpec.toJson ApplySpec.decoder
  stemcellApplySpec :
    Faithful StemcellApplySpec.Kept (fun _ => True) StemcellApplySpec.toJson
      StemcellApplySpec.decoder
  diskRecord :
    Faithful DiskRecord.Kept (fun r => r.createdAt.ReadsBack) DiskRecord.toJson DiskRecord.decoder

theorem documents_faithful : Documents where
  manifest := .of_yields (fun m kept _ => m.decoder_toJson kept) Manifest.yields
  settingsServer := .of_yields (fun s _ _ => s.decoder_toJson) fun _ _ _ => trivial
  tunnelAccess := .of_yields (fun t _ _ => t.decoder_toJson) fun _ _ _ => trivial
  agentState := .of_yields (fun s _ _ => s.decoder_toJson) fun _ _ _ => trivial
  applySpec := .of_yields (fun s kept _ => s.decoder_toJson kept) ApplySpec.yields
  stemcellApplySpec := .of_yields (fun s kept _ => s.decoder_toJson kept) StemcellApplySpec.yields
  diskRecord := .of_yields DiskRecord.decoder_toJson DiskRecord.yields

theorem documents_faithful_sample :
    let manifest : Manifest := ⟨"bosh",
      [⟨"director", 1, [], [], 0, some "fast", [("nats", .null), ("port", .ofNat 4222)]⟩],
      [⟨"fast", 1024, [("type", .string "ssd")]⟩], ⟨⟨0, 5000⟩⟩⟩
    let record : DiskRecord :=
      ⟨.ofNat 5, ⟨"disk-1", by decide⟩, 1024, [("type", .string "ssd")], ⟨1700000000, 5000000⟩⟩
    Manifest.decoder manifest.toJson = .ok manifest ∧ record.createdAt.ReadsBack ∧
      DiskRecord.decoder record.toJson = .ok record := by
  intro manifest record
  have readsBack : Timestamp.parse (Timestamp.text ⟨1700000000, 5000000⟩)
      = .ok ⟨1700000000, 5000000⟩ := by
    decide +kernel
  have inOrder : "nats" < "port" := by decide
  have jobs : ∀ j ∈ manifest.jobs, j.Kept :=
    List.forall_mem_singleton.mpr (List.pairwise_pair.mpr inOrder)
  have pools : ∀ p ∈ manifest.diskPools, p.Kept :=
    List.forall_mem_singleton.mpr (List.pairwise_singleton _ _)
  exact ⟨documents_faithful.manifest.lossless manifest ⟨jobs, pools⟩ trivial, readsBack,
    documents_faithful.diskRecord.lossless record (List.pairwise_singleton _ _) readsBack⟩

end VmDeploy
