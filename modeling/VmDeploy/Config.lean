import VmDeploy.Id.Uuid
import VmDeploy.Text.Blank
import VmDeploy.Text.Decimal
import VmDeploy.Time.Duration

/-!
# Configuration

Settings are read from named variables, each of which may be missing. The
numeric ones are decimal numbers, of milliseconds where they are spans. The
variables are read in a fixed order, and the first that cannot be read is
reported.
-/

set_option autoImplicit false

namespace VmDeploy

/-- How long an instance waits for its agent and its jobs. -/
structure InstanceSettings where
  agentWaitTimeout : Duration := .ofMillis 600000
  agentPollDelay : Duration := .ofMillis 500
  jobsPollInterval : Duration := .ofMillis 1000
  deriving DecidableEq, Repr, Inhabited

/-- How often and how far apart a tunnel is dialed. -/
structure DialPolicy where
  maxTries : UInt32 := 300
  delay : Duration := .ofMillis 500
  deriving DecidableEq, Repr, Inhabited

/-- The settings of a deployment. -/
structure Config where
  dataDir : String := "/var/lib/dirboot"
  logLevel : String := "info"
  cpiPath : Option String := none
  /-- Sent to the cloud with every call; a random one is drawn where it is missing. -/
  directorUuid : Option Uuid := none
  agentWaitTimeout : Duration := ({} : InstanceSettings).agentWaitTimeout
  agentPollDelay : Duration := ({} : InstanceSettings).agentPollDelay
  /-- How long and how often an agent is pinged before its instance is deleted. -/
  deletePingTimeout : Duration := .ofMillis 10000
  deletePingDelay : Duration := .ofMillis 500
  jobsPollInterval : Duration := ({} : InstanceSettings).jobsPollInterval
  tunnelDialMaxTries : UInt32 := ({} : DialPolicy).maxTries
  tunnelDialDelay : Duration := ({} : DialPolicy).delay
  agentTaskPollDelay : Duration := .ofMillis 500
  deriving DecidableEq, Repr, Inhabited

/-- Why settings cannot be read. -/
inductive ConfigError where
  | invalidUuid (value : String)
  | invalidNumber (key value : String) (fault : Text.Decimal.Fault)
  | zeroPollInterval
  deriving DecidableEq, Repr

namespace ConfigError

/-- The wording of an error. -/
def message : ConfigError → String
  | .invalidUuid value => s!"Invalid DIRBOOT_DIRECTOR_UUID '{value}'"
  | .invalidNumber key value _ => s!"Invalid value for {key}: '{value}'"
  | .zeroPollInterval => "Invalid value for DIRBOOT_JOBS_POLL_INTERVAL_MS: must be at least 1"

/-- The wordings of what caused an error. -/
def causes : ConfigError → List String
  | .invalidNumber _ _ fault => [fault.message]
  | .invalidUuid _ | .zeroPollInterval => []

end ConfigError

namespace Config

/-- The variables by name. -/
abbrev Variables := String → Option String

variable (lookup : Variables)

/-- The number below `bound` that a variable holds, if it is there. -/
def number? (bound : Nat) (key : String) : Except ConfigError (Option Nat) :=
  match lookup key with
  | none => .ok none
  | some value =>
    match Text.Decimal.readUnsigned bound (Text.trim value.toList) with
    | .ok n => .ok (some n)
    | .error fault => .error (.invalidNumber key value fault)

/-- The milliseconds that a variable holds, or a default. -/
def millis (key : String) (absent : Duration) : Except ConfigError Duration := do
  return ((← number? lookup UInt64.size key).map Duration.ofMillis).getD absent

/-- The UUID that the director's variable holds. -/
def uuid? : Except ConfigError (Option Uuid) :=
  match lookup "DIRBOOT_DIRECTOR_UUID" with
  | none => .ok none
  | some value =>
    match Uuid.parse value with
    | some id => .ok (some id)
    | none => .error (.invalidUuid value)

/-- Reads the settings. -/
def ofLookup : Except ConfigError Config := do
  let defaults : Config := {}
  let directorUuid ← uuid? lookup
  let jobsPollInterval ←
    millis lookup "DIRBOOT_JOBS_POLL_INTERVAL_MS" defaults.jobsPollInterval
  if jobsPollInterval = Duration.zero then throw .zeroPollInterval
  let agentWaitTimeout ←
    millis lookup "DIRBOOT_AGENT_WAIT_TIMEOUT_MS" defaults.agentWaitTimeout
  let agentPollDelay ← millis lookup "DIRBOOT_AGENT_POLL_DELAY_MS" defaults.agentPollDelay
  let deletePingTimeout ←
    millis lookup "DIRBOOT_DELETE_PING_TIMEOUT_MS" defaults.deletePingTimeout
  let deletePingDelay ← millis lookup "DIRBOOT_DELETE_PING_DELAY_MS" defaults.deletePingDelay
  let maxTries ← number? lookup UInt32.size "DIRBOOT_TUNNEL_DIAL_MAX_TRIES"
  let tunnelDialDelay ← millis lookup "DIRBOOT_TUNNEL_DIAL_DELAY_MS" defaults.tunnelDialDelay
  let agentTaskPollDelay ←
    millis lookup "DIRBOOT_AGENT_TASK_POLL_DELAY_MS" defaults.agentTaskPollDelay
  return {
    dataDir := (lookup "DIRBOOT_DATA_DIR").getD defaults.dataDir
    logLevel := (lookup "DIRBOOT_LOG_LEVEL").getD defaults.logLevel
    cpiPath := lookup "DIRBOOT_CPI_PATH"
    directorUuid, agentWaitTimeout, agentPollDelay, deletePingTimeout, deletePingDelay
    jobsPollInterval
    tunnelDialMaxTries := (maxTries.map UInt32.ofNat).getD defaults.tunnelDialMaxTries
    tunnelDialDelay, agentTaskPollDelay }

/-- The waits of an instance. -/
def instanceSettings (c : Config) : InstanceSettings where
  agentWaitTimeout := c.agentWaitTimeout
  agentPollDelay := c.agentPollDelay
  jobsPollInterval := c.jobsPollInterval

/-- The dialing of a tunnel. -/
def dialPolicy (c : Config) : DialPolicy where
  maxTries := c.tunnelDialMaxTries
  delay := c.tunnelDialDelay

/-- The file of the disk registry, in the directory for data. -/
def diskRegistryPath (c : Config) : String :=
  if c.dataDir.isEmpty then "disks.db"
  else if c.dataDir.toList.getLast? = some '/' then c.dataDir ++ "disks.db"
  else c.dataDir ++ "/disks.db"

end Config

end VmDeploy
