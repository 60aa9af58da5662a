import VmDeploy.ApplySpec.Json
import VmDeploy.Digest.Fingerprint

/-!
# Desired states

Everything that an agent needs to run the jobs of one instance, from which its
apply spec is made. Networks and packages stand there by name, so of two of
one name the later counts, and their order does not.

The configuration hash is the fingerprint of the apply spec without a hash.
-/

set_option autoImplicit false

namespace VmDeploy

/-- A network and how the instance is placed on it. -/
structure NetworkRef where
  name : String
  placement : Json
  deriving Repr, Inhabited

/-- A rendered job. -/
structure RenderedJob where
  name : String
  version : String
  deriving DecidableEq, Repr, Inhabited

/-- A compiled package in the blob store. -/
structure CompiledPackage where
  name : String
  version : String
  archive : Archive
  deriving DecidableEq, Repr, Inhabited

/-- What an instance is to run. -/
structure DesiredState where
  deployment : String
  job : String
  index : UInt32
  networks : List NetworkRef
  renderedJobs : List RenderedJob
  compiledPackages : List CompiledPackage
  archive : Archive
  deriving Repr, Inhabited

/-- The blob of a rendered job. -/
def RenderedJob.blob (j : RenderedJob) : Blob := { name := j.name, version := j.version }

/-- The blob of a package. -/
def CompiledPackage.blob (p : CompiledPackage) : Blob :=
  { name := p.name, version := p.version, sha1 := p.archive.sha1,
    blobstoreId := p.archive.blobstoreId }

namespace DesiredState

/-- The apply spec with a given hash. -/
def applySpecWith (s : DesiredState) (hash : String) : ApplySpec where
  deployment := s.deployment
  index := s.index
  networks := Keyed.ofList (s.networks.map fun n => (n.name, n.placement))
  job := { name := s.job, templates := s.renderedJobs.map RenderedJob.blob }
  packages := Keyed.ofList (s.compiledPackages.map fun p => (p.name, p.blob))
  renderedTemplatesArchive := s.archive
  configurationHash := hash

/-- The fingerprint of everything that the agent is told. -/
def configurationHash (s : DesiredState) : String :=
  Digest.fingerprint (s.applySpecWith "").toJson

/-- What the agent is told. -/
def applySpec (s : DesiredState) : ApplySpec := s.applySpecWith s.configurationHash

end DesiredState

end VmDeploy
