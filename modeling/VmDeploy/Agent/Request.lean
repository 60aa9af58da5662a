import VmDeploy.Agent.Error
import VmDeploy.ApplySpec.Basic
import VmDeploy.Id.Cloud

/-!
# Requests to an agent
-/

set_option autoImplicit false

namespace VmDeploy

/-- What an agent can be asked to do. -/
inductive AgentRequest where
  | ping
  /-- Stops all jobs. -/
  | stop
  | apply (spec : ApplySpec)
  /-- Starts all jobs. -/
  | start
  | getState
  | mountDisk (disk : DiskCid)
  | unmountDisk (disk : DiskCid)
  /-- The disks that are mounted. -/
  | listDisk
  /-- Copies the content of the mounted disk to the one mounted last. -/
  | migrateDisk
  deriving Repr

namespace AgentRequest

/-- What an agent answers a request with when nothing fails. -/
def Value : AgentRequest → Type
  | .ping => String
  | .getState => AgentState
  | .listDisk => List DiskCid
  | .stop | .apply _ | .start | .mountDisk _ | .unmountDisk _ | .migrateDisk => Unit

/-- What an agent answers a request with. -/
abbrev Answer (r : AgentRequest) : Type := Except AgentError r.Value

/-- The name of what is asked for. -/
def method : AgentRequest → String
  | .ping => "ping"
  | .stop => "stop"
  | .apply _ => "apply"
  | .start => "start"
  | .getState => "get_state"
  | .mountDisk _ => "mount_disk"
  | .unmountDisk _ => "unmount_disk"
  | .listDisk => "list_disk"
  | .migrateDisk => "migrate_disk"

end AgentRequest

end VmDeploy
