import VmDeploy.Json.Basic

/-!
# Manifests

What is to be deployed: jobs with their networks and persistent disks, pools
that say how disks are made, and how long to watch a job that was started.
Settings that let a VM reach the registry stand beside it.

`Manifest.diskPool` says which disk a job is to have: the pool that it names,
else a disk of the size that it names, else none, which is a pool of size
zero.
-/

set_option autoImplicit false

namespace VmDeploy

/-- What the cloud is told about a resource beyond its size. -/
abbrev CloudProperties := Keyed Json

/-- A job of a release that a deployed job is made from. -/
structure TemplateRef where
  name : String
  release : String
  deriving DecidableEq, Repr, Inhabited

/-- A network that a job is placed on. -/
structure JobNetwork where
  name : String
  staticIps : List String
  deriving DecidableEq, Repr, Inhabited

/-- A job of the deployment. -/
structure Job where
  name : String
  instances : UInt32
  templates : List TemplateRef
  networks : List JobNetwork
  /-- The size of its disk in megabytes, if it names no pool. -/
  persistentDisk : UInt64
  persistentDiskPool : Option String
  properties : Keyed Json
  deriving Repr, Inhabited

/-- How persistent disks are made. -/
structure DiskPool where
  name : String
  /-- In megabytes. -/
  diskSize : UInt64
  cloudProperties : CloudProperties
  deriving Repr, Inhabited

/-- The time, in milliseconds behind its start, in which a job has to come up. -/
structure WatchTime where
  start : UInt64
  finish : UInt64
  deriving DecidableEq, Repr, Inhabited

/-- How instances are updated. -/
structure UpdateSettings where
  updateWatchTime : WatchTime
  deriving DecidableEq, Repr, Inhabited

/-- What is to be deployed. -/
structure Manifest where
  name : String
  jobs : List Job
  diskPools : List DiskPool
  update : UpdateSettings
  deriving Repr, Inhabited

/-- The server from which an agent reads its settings. -/
structure SettingsServer where
  username : String := ""
  password : String := ""
  host : String := ""
  port : UInt16 := 0
  deriving DecidableEq, Repr, Inhabited

/-- How the network of a VM is reached for a tunnel. -/
structure TunnelAccess where
  host : String := ""
  port : UInt16 := 0
  user : String := ""
  password : String := ""
  /-- The path of a key file. -/
  privateKey : String := ""
  deriving DecidableEq, Repr, Inhabited

/-- Whether nothing is set. -/
def SettingsServer.isEmpty (s : SettingsServer) : Bool := s = {}

/-- Whether nothing is set. -/
def TunnelAccess.isEmpty (t : TunnelAccess) : Bool := t = {}

/-- No disk at all. -/
def DiskPool.empty : DiskPool := ⟨"", 0, []⟩

/-- Why a manifest does not say what is asked. -/
inductive ManifestError where
  | jobNotFound (job : String)
  | poolNotFound (pool job : String)
  deriving DecidableEq, Repr

/-- The wording of an error. -/
def ManifestError.message : ManifestError → String
  | .jobNotFound job => s!"Could not find job with name: {job}"
  | .poolNotFound pool job =>
    s!"Could not find persistent disk pool '{pool}' for job '{job}'"

namespace Manifest

/-- The job of a name. -/
def findJob (m : Manifest) (name : String) : Option Job := m.jobs.find? (·.name = name)

/-- The pool of a name. -/
def findPool (m : Manifest) (name : String) : Option DiskPool :=
  m.diskPools.find? (·.name = name)

/-- The disk that a job is to have. -/
def diskPool (m : Manifest) (jobName : String) : Except ManifestError DiskPool :=
  match m.findJob jobName with
  | none => .error (.jobNotFound jobName)
  | some job =>
    match job.persistentDiskPool.filter (· ≠ "") with
    | some pool =>
      match m.findPool pool with
      | some p => .ok p
      | none => .error (.poolNotFound pool jobName)
    | none =>
      if 0 < job.persistentDisk then .ok ⟨"", job.persistentDisk, []⟩ else .ok .empty

end Manifest

end VmDeploy
