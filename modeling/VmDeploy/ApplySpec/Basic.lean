import VmDeploy.Json.Basic

/-!
# Apply specs

The document that tells an agent what to run: the job with its templates, the
packages, the networks and the archive of rendered templates, all by their
places in the blob store. It ends in a hash, by which an agent sees whether
anything changed.
-/

set_option autoImplicit false

namespace VmDeploy

/-- A named and versioned blob; what is empty of the last two is not known. -/
structure Blob where
  name : String
  version : String
  sha1 : String := ""
  blobstoreId : String := ""
  deriving DecidableEq, Repr, Inhabited

/-- The place of an archive in the blob store. -/
structure Archive where
  blobstoreId : String
  sha1 : String
  deriving DecidableEq, Repr, Inhabited

/-- A job and the templates it is made of. -/
structure AppliedJob where
  name : String
  templates : List Blob
  deriving DecidableEq, Repr, Inhabited

/-- What an agent is to run. -/
structure ApplySpec where
  deployment : String
  index : UInt32
  networks : Keyed Json
  job : AppliedJob
  packages : Keyed Blob
  renderedTemplatesArchive : Archive
  configurationHash : String
  deriving Repr, Inhabited

/-- What a machine image runs before anything is deployed. -/
structure StemcellApplySpec where
  job : AppliedJob
  packages : Keyed Blob
  deriving Repr, Inhabited

/-- What an agent says of its jobs. -/
structure AgentState where
  jobState : String
  deriving DecidableEq, Repr, Inhabited

/-- Whether all jobs are running. -/
def AgentState.isRunning (s : AgentState) : Bool := s.jobState = "running"

end VmDeploy
