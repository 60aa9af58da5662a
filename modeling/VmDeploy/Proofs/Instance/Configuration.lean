import VmDeploy.Instance.DesiredState
import VmDeploy.Proofs.Digest.Fingerprint
import VmDeploy.Proofs.Json.Documents

/-!
# What the configuration hash covers

The configuration hash is the fingerprint of the apply spec without a hash, and an apply spec holds
networks and packages by name. So the hash tells desired states apart by everything that an agent is
told, and by nothing else (`DesiredState.configurationHash_eq_iff`): of several networks of one
name, or several packages, by the last. One that is shadowed by a later one of its name is in no
apply spec and makes no difference (`DesiredState.shadowed_network_unseen`). Where no name occurs
twice all networks and packages count (`DesiredState.Agrees.exists_network`,
`DesiredState.Agrees.mem_compiledPackages`).

Whoever receives an apply spec can check the hash in it, and neither the order in which networks
are listed nor that of packages makes a difference (`DesiredState.configurationHash_rechecked`).
-/

set_option autoImplicit false

namespace VmDeploy

open Digest (fingerprint fingerprint_eq_iff Sha256.Collide)
open Json (Alike Normal normal_array normal_object normalize_object normalize_eq_iff)
open Keyed (Ascending)

/-! ## Apply specs in normal form -/

theorem Blob.normal_entryUnlessEmpty {key value : String} :
    ∀ entry ∈ entryUnlessEmpty key value, Normal entry.2 := by
  unfold entryUnlessEmpty
  split
  · exact nofun
  · exact List.forall_mem_singleton.mpr rfl

theorem Blob.keys_entryUnlessEmpty (key value : String) :
    ((entryUnlessEmpty key value).map Prod.fst).Sublist [key] := by
  unfold entryUnlessEmpty
  split
  · exact List.nil_sublist _
  · exact .refl _

theorem Blob.normal_toJson (b : Blob) : Normal b.toJson := by
  have order : ["blobstore_id", "name", "sha1", "version"].Pairwise (· < ·) := by decide
  refine normal_object (.of_keys order ?_) ?_
  · simp only [List.map_append]
    exact (((keys_entryUnlessEmpty _ _).append (.refl ["name"])).append
      (keys_entryUnlessEmpty _ _)).append (.refl ["version"])
  · simp only [List.forall_mem_append, List.forall_mem_singleton]
    exact ⟨⟨⟨normal_entryUnlessEmpty, rfl⟩, normal_entryUnlessEmpty⟩, rfl⟩

theorem Archive.normal_toJson (a : Archive) : Normal a.toJson := by
  have order : ["blobstore_id", "sha1"].Pairwise (· < ·) := by decide
  exact normal_object (.of_keys order (.refl _)) 
    (List.forall_mem_cons.mpr ⟨rfl, List.forall_mem_singleton.mpr rfl⟩)

theorem AppliedJob.normal_toJson (j : AppliedJob) : Normal j.toJson := by
  have order : ["name", "templates"].Pairwise (· < ·) := by decide
  have templates : Normal (.array (j.templates.map Blob.toJson)) :=
    normal_array (List.forall_mem_map.mpr fun b _ => b.normal_toJson)
  exact normal_object (.of_keys order (.refl _)) 
    (List.forall_mem_cons.mpr ⟨rfl, List.forall_mem_singleton.mpr templates⟩)

theorem normal_packagesToJson {packages : Keyed Blob} (ascending : packages.Ascending) :
    Normal (packagesToJson packages) :=
  normal_object (ascending.map Blob.toJson) (List.forall_mem_map.mpr fun entry _ =>
    entry.2.normal_toJson)

namespace ApplySpec

/-- The spec with the placements on its networks in normal form. -/
def normalized (s : ApplySpec) : ApplySpec :=
  { s with networks := s.networks.map fun entry => (entry.1, entry.2.normalize) }

theorem normalize_toJson {s : ApplySpec} (kept : s.Kept) :
    s.toJson.normalize = s.normalized.toJson := by
  have order : ["configuration_hash", "deployment", "index", "job", "networks", "packages",
      "rendered_templates_archive"].Pairwise (· < ·) := by
    decide
  have job : s.job.toJson.normalize = s.job.toJson := s.job.normal_toJson
  have networks := normalize_object kept.1
  have packages : (packagesToJson s.packages).normalize = packagesToJson s.packages :=
    normal_packagesToJson kept.2
  have archive : s.renderedTemplatesArchive.toJson.normalize = s.renderedTemplatesArchive.toJson :=
    s.renderedTemplatesArchive.normal_toJson
  rw [toJson, normalize_object (.of_keys order (.refl _))]
  simp only [List.map_cons, List.map_nil, job, networks, packages, archive]
  rfl

/-- Specs have one normal form if and only if they differ in that of the placements at most. -/
theorem normalize_toJson_eq_iff {s t : ApplySpec} (kept : s.Kept) (kept' : t.Kept) :
    s.toJson.normalize = t.toJson.normalize ↔ s.normalized = t.normalized := by
  rw [normalize_toJson kept, normalize_toJson kept']
  refine ⟨fun same => ?_, congrArg toJson⟩
  have read := s.normalized.decoder_toJson ⟨kept.1.map Json.normalize, kept.2⟩
  rw [same, t.normalized.decoder_toJson ⟨kept'.1.map Json.normalize, kept'.2⟩] at read
  exact (Except.ok.inj read).symm

end ApplySpec

/-! ## Desired states -/

theorem RenderedJob.blob_injective : Function.Injective RenderedJob.blob := by
  rintro ⟨name, version⟩ ⟨name', version'⟩ same
  cases same
  rfl

theorem CompiledPackage.blob_injective : Function.Injective CompiledPackage.blob := by
  rintro ⟨name, version, place, sha1⟩ ⟨name', version', place', sha1'⟩ same
  cases same
  rfl

namespace DesiredState

/-- The network of a name that counts, which is the last. -/
def network? (s : DesiredState) (name : String) : Option NetworkRef :=
  s.networks.reverse.find? fun n => n.name = name

/-- The package of a name that counts, which is the last. -/
def package? (s : DesiredState) (name : String) : Option CompiledPackage :=
  s.compiledPackages.reverse.find? fun p => p.name = name

/-- The two states are the same in all that an agent is told. -/
structure Agrees (s t : DesiredState) : Prop where
  deployment : s.deployment = t.deployment
  job : s.job = t.job
  index : s.index = t.index
  networks : ∀ name,
    Option.Rel (fun m n => Alike (· = ·) m.placement n.placement) (s.network? name)
      (t.network? name)
  renderedJobs : s.renderedJobs = t.renderedJobs
  compiledPackages : ∀ name, s.package? name = t.package? name
  archive : s.archive = t.archive

variable {s t : DesiredState}

theorem kept_applySpecWith (s : DesiredState) (hash : String) : (s.applySpecWith hash).Kept :=
  ⟨Keyed.ascending_ofList _, Keyed.ascending_ofList _⟩

/-- The networks of two specs have the same normal form if those that count are placed alike. -/
theorem networks_eq_iff (hash : String) :
    (s.applySpecWith hash).normalized.networks = (t.applySpecWith hash).normalized.networks ↔
      ∀ name, Option.Rel (fun m n => Alike (· = ·) m.placement n.placement)
        (s.network? name) (t.network? name) := by
  refine Keyed.map_ofList_eq_iff.trans (forall_congr' fun name => ?_)
  rw [Keyed.last?_entries, Keyed.last?_entries]
  show ((s.network? name).map _).map _ = ((t.network? name).map _).map _ ↔ _
  cases s.network? name <;> cases t.network? name <;> simp [normalize_eq_iff]

theorem packages_eq_iff (hash : String) :
    (s.applySpecWith hash).normalized.packages = (t.applySpecWith hash).normalized.packages ↔
      ∀ name, s.package? name = t.package? name := by
  refine Keyed.ofList_eq_iff.trans (forall_congr' fun name => ?_)
  rw [Keyed.last?_entries, Keyed.last?_entries]
  exact (Option.map_injective CompiledPackage.blob_injective).eq_iff

theorem normalized_applySpecWith_eq_iff (hash : String) :
    (s.applySpecWith hash).normalized = (t.applySpecWith hash).normalized ↔ s.Agrees t := by
  have templates : s.renderedJobs.map RenderedJob.blob = t.renderedJobs.map RenderedJob.blob
      ↔ s.renderedJobs = t.renderedJobs :=
    (List.map_injective_iff.mpr RenderedJob.blob_injective).eq_iff
  constructor
  · intro same
    obtain ⟨deployment, index, networks, job, packages, archive, -⟩ := ApplySpec.mk.inj same
    obtain ⟨job, jobs⟩ := AppliedJob.mk.inj job
    exact ⟨deployment, job, index, (networks_eq_iff hash).mp networks, templates.mp jobs,
      (packages_eq_iff hash).mp packages, archive⟩
  · rintro ⟨deployment, job, index, networks, jobs, packages, archive⟩
    exact (ApplySpec.mk.injEq ..).mpr ⟨deployment, index, (networks_eq_iff hash).mpr networks,
      (AppliedJob.mk.injEq ..).mpr ⟨job, templates.mpr jobs⟩, (packages_eq_iff hash).mpr packages,
      archive, rfl⟩

/-- Where no name occurs twice, all networks count. -/
theorem Agrees.exists_network (agrees : s.Agrees t) (distinct : (s.networks.map (·.name)).Nodup)
    {n : NetworkRef} (mem : n ∈ s.networks) :
    ∃ m ∈ t.networks, m.name = n.name ∧ Alike (· = ·) n.placement m.placement := by
  have last : s.network? n.name = some n := Keyed.find?_reverse_of_distinct distinct mem
  have rel := agrees.networks n.name
  rw [last] at rel
  cases found : t.network? n.name with
  | none =>
    rw [found] at rel
    cases rel
  | some m =>
    rw [found] at rel
    cases rel with
    | some alike =>
      have named : m.name = n.name := by simpa using List.find?_some found
      exact ⟨m, List.mem_reverse.mp (List.mem_of_find?_eq_some found), named, alike⟩

/-- Where no name occurs twice, all packages count. -/
theorem Agrees.mem_compiledPackages (agrees : s.Agrees t)
    (distinct : (s.compiledPackages.map (·.name)).Nodup) {p : CompiledPackage}
    (mem : p ∈ s.compiledPackages) : p ∈ t.compiledPackages := by
  have last : s.package? p.name = some p := Keyed.find?_reverse_of_distinct distinct mem
  exact List.mem_reverse.mp (List.mem_of_find?_eq_some (agrees.compiledPackages p.name ▸ last))

/-- The hashes of two states are the same only if all that an agent is told is. -/
theorem configurationHash_eq_iff (s t : DesiredState)
    (apart : ¬Sha256.Collide (Text.Utf8.encode (s.applySpecWith "").toJson.canonical)
      (Text.Utf8.encode (t.applySpecWith "").toJson.canonical)) :
    s.configurationHash = t.configurationHash ↔ s.Agrees t := by
  have forms := ApplySpec.normalize_toJson_eq_iff (s.kept_applySpecWith "")
    (t.kept_applySpecWith "")
  exact (fingerprint_eq_iff apart).trans (forms.trans (normalized_applySpecWith_eq_iff ""))

/-- A state with one package. -/
def sampleState (version : String) : DesiredState where
  deployment := "bosh"
  job := "nats"
  index := 0
  networks := []
  renderedJobs := []
  compiledPackages := [⟨"ruby", version, ⟨"", ""⟩⟩]
  archive := ⟨"", ""⟩

theorem sampleState_apart :
    ¬Sha256.Collide (Text.Utf8.encode ((sampleState "2.1").applySpecWith "").toJson.canonical)
      (Text.Utf8.encode ((sampleState "2.2").applySpecWith "").toJson.canonical) := by
  simp only [Json.canonical, Json.compact, Text.Utf8.encode_ofList]
  decide +kernel

/-- Another version of a package makes another hash. -/
theorem configurationHash_eq_iff_sample :
    (sampleState "2.1").configurationHash ≠ (sampleState "2.2").configurationHash := by
  have differ : (sampleState "2.1").package? "ruby" ≠ (sampleState "2.2").package? "ruby" := by
    decide
  exact (configurationHash_eq_iff _ _ sampleState_apart).not.mpr fun agrees =>
    differ (agrees.compiledPackages "ruby")

/-- A network that a later one of its name shadows makes no difference. -/
theorem shadowed_network_unseen :
    let shadowed : NetworkRef := ⟨"default", .null⟩
    let counting : NetworkRef := ⟨"default", .bool true⟩
    let state (networks : List NetworkRef) : DesiredState :=
      { deployment := "bosh", job := "director", index := 0, networks, renderedJobs := [],
        compiledPackages := [], archive := ⟨"blob", "sha1"⟩ }
    shadowed ∈ (state [shadowed, counting]).networks ∧ shadowed ∉ (state [counting]).networks ∧
      (state [shadowed, counting]).configurationHash = (state [counting]).configurationHash ∧
      ¬Sha256.Collide
        (Text.Utf8.encode ((state [shadowed, counting]).applySpecWith "").toJson.canonical)
        (Text.Utf8.encode ((state [counting]).applySpecWith "").toJson.canonical) := by
  intro shadowed counting state
  have told :
      (state [shadowed, counting]).applySpecWith "" = (state [counting]).applySpecWith "" := by
    simp [state, shadowed, counting, applySpecWith, Keyed.ofList, Keyed.insert]
  refine ⟨List.mem_cons_self, by simp [state, shadowed, counting], ?_, fun collide => ?_⟩
  · rw [configurationHash, told, configurationHash]
  · exact collide.1 (by rw [told])

/-! ## Checking the hash again -/

/-- The second state lists the networks and the packages of the first in another order. -/
structure Relisted (s t : DesiredState) : Prop where
  networks : s.networks.Perm t.networks
  compiledPackages : s.compiledPackages.Perm t.compiledPackages
  others : t = { s with networks := t.networks, compiledPackages := t.compiledPackages }

/-- Where no name occurs twice, the order of networks and packages is not seen in the spec. -/
theorem Relisted.applySpecWith_eq (relisted : s.Relisted t)
    (networks : (s.networks.map (·.name)).Nodup)
    (packages : (s.compiledPackages.map (·.name)).Nodup) (hash : String) :
    t.applySpecWith hash = s.applySpecWith hash := by
  have networksByName : Keyed.ofList (s.networks.map fun n => (n.name, n.placement))
      = Keyed.ofList (t.networks.map fun n => (n.name, n.placement)) :=
    Keyed.ofList_entries_perm relisted.networks networks
  have packagesByName : Keyed.ofList (s.compiledPackages.map fun p => (p.name, p.blob))
      = Keyed.ofList (t.compiledPackages.map fun p => (p.name, p.blob)) :=
    Keyed.ofList_entries_perm relisted.compiledPackages packages
  rw [applySpecWith, applySpecWith, networksByName, packagesByName, relisted.others]

/-- The hash in a spec is checked by hashing what was received without it, and states that list
networks and packages in different orders have one spec and one hash. -/
theorem configurationHash_rechecked (s : DesiredState) :
    (∃ spec, ApplySpec.decoder s.applySpec.toJson = .ok spec ∧
      fingerprint ({ spec with configurationHash := "" } : ApplySpec).toJson
        = s.configurationHash) ∧
    ∀ t, s.Relisted t → (s.networks.map (·.name)).Nodup →
      (s.compiledPackages.map (·.name)).Nodup →
      t.applySpec = s.applySpec ∧ t.configurationHash = s.configurationHash := by
  constructor
  · exact ⟨s.applySpec, s.applySpec.decoder_toJson (s.kept_applySpecWith _), rfl⟩
  · intro t relisted networks packages
    have specs := relisted.applySpecWith_eq networks packages
    have hashes : t.configurationHash = s.configurationHash := by
      rw [configurationHash, specs, configurationHash]
    exact ⟨by rw [applySpec, specs, hashes, applySpec], hashes⟩

theorem configurationHash_rechecked_sample :
    let ruby : CompiledPackage := ⟨"ruby", "2.1", ⟨"ruby-blob", "ruby-sha1"⟩⟩
    let nginx : CompiledPackage := ⟨"nginx", "1.0", ⟨"nginx-blob", ""⟩⟩
    let inner : NetworkRef := ⟨"inner", .object [("ip", .string "10.0.0.6")]⟩
    let outer : NetworkRef := ⟨"outer", .null⟩
    let state (networks : List NetworkRef) (packages : List CompiledPackage) : DesiredState :=
      { deployment := "bosh", job := "director", index := 0, networks, renderedJobs := [],
        compiledPackages := packages, archive := ⟨"blob", "sha1"⟩ }
    (state [inner, outer] [ruby, nginx]).configurationHash
      = (state [outer, inner] [nginx, ruby]).configurationHash := by
  intro ruby nginx inner outer state
  have relisted :
      (state [outer, inner] [nginx, ruby]).Relisted (state [inner, outer] [ruby, nginx]) :=
    ⟨.swap _ _ [], .swap _ _ [], rfl⟩
  exact ((configurationHash_rechecked _).2 _ relisted (by decide) (by decide)).2

end DesiredState

end VmDeploy
