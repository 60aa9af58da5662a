import VmDeploy.Config
import VmDeploy.Json.Basic

/-!
# Settings as JSON

All settings with their values, given or not; spans are told in milliseconds.
-/

set_option autoImplicit false

namespace VmDeploy.Config

/-- Writes settings. -/
def toJson (c : Config) : Json :=
  .ofEntries [
    ("data_dir", .string c.dataDir),
    ("log_level", .string c.logLevel),
    ("cpi_path", Json.ofOption .string c.cpiPath),
    ("director_uuid", Json.ofOption (fun id : Uuid => .string id.text) c.directorUuid),
    ("agent_wait_timeout_ms", .ofNat c.agentWaitTimeout.toMillis),
    ("agent_poll_delay_ms", .ofNat c.agentPollDelay.toMillis),
    ("delete_ping_timeout_ms", .ofNat c.deletePingTimeout.toMillis),
    ("delete_ping_delay_ms", .ofNat c.deletePingDelay.toMillis),
    ("jobs_poll_interval_ms", .ofNat c.jobsPollInterval.toMillis),
    ("tunnel_dial_max_tries", .ofNat c.tunnelDialMaxTries.toNat),
    ("tunnel_dial_delay_ms", .ofNat c.tunnelDialDelay.toMillis),
    ("agent_task_poll_delay_ms", .ofNat c.agentTaskPollDelay.toMillis),
    ("disk_registry_path", .string c.diskRegistryPath)]

end VmDeploy.Config
