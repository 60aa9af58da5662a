import VmDeploy.Json.Decode
import VmDeploy.Manifest.Basic

/-!
# Manifests as JSON

Each type has a decoder and an encoder. Encoded objects hold every field, in
the order of the keys; a field that may be missing is read as the value it is
encoded from when it is not set.
-/

set_option autoImplicit false

namespace VmDeploy

open Json (Decoder Fields)
open Json.Fields (required optional)
open Json.Decoder (string uint16 uint32 uint64 list keyed orNull record any)

namespace TemplateRef

/-- Reads a reference. -/
def decoder : Decoder TemplateRef :=
  record "ReleaseJobRef" (mk <$> required "name" string <*> required "release" string)

/-- Writes a reference. -/
def toJson (t : TemplateRef) : Json :=
  .object [("name", .string t.name), ("release", .string t.release)]

end TemplateRef

namespace JobNetwork

/-- Reads a network. -/
def decoder : Decoder JobNetwork :=
  record "JobNetwork" (mk <$> required "name" string <*> optional "static_ips" (list string) [])

/-- Writes a network. -/
def toJson (n : JobNetwork) : Json :=
  .object [("name", .string n.name), ("static_ips", .ofList .string n.staticIps)]

end JobNetwork

namespace Job

/-- Reads a job. -/
def decoder : Decoder Job :=
  record "Job" (mk
    <$> required "name" string
    <*> optional "instances" uint32 0
    <*> optional "templates" (list TemplateRef.decoder) []
    <*> optional "networks" (list JobNetwork.decoder) []
    <*> optional "persistent_disk" uint64 0
    <*> optional "persistent_disk_pool" (orNull string) none
    <*> optional "properties" (keyed any) [])

/-- Writes a job. -/
def toJson (j : Job) : Json :=
  .object [
    ("instances", .ofNat j.instances.toNat),
    ("name", .string j.name),
    ("networks", .ofList JobNetwork.toJson j.networks),
    ("persistent_disk", .ofNat j.persistentDisk.toNat),
    ("persistent_disk_pool", (j.persistentDiskPool.map Json.string).getD .null),
    ("properties", .object j.properties),
    ("templates", .ofList TemplateRef.toJson j.templates)]

end Job

namespace DiskPool

/-- Reads a pool. -/
def decoder : Decoder DiskPool :=
  record "DiskPool" (mk
    <$> required "name" string
    <*> required "disk_size" uint64
    <*> optional "cloud_properties" (keyed any) [])

/-- Writes a pool. -/
def toJson (p : DiskPool) : Json :=
  .object [
    ("cloud_properties", .object p.cloudProperties),
    ("disk_size", .ofNat p.diskSize.toNat),
    ("name", .string p.name)]

end DiskPool

namespace WatchTime

/-- Reads a window. -/
def decoder : Decoder WatchTime :=
  record "WatchTime" (mk <$> required "start" uint64 <*> required "end" uint64)

/-- Writes a window. -/
def toJson (w : WatchTime) : Json :=
  .object [("end", .ofNat w.finish.toNat), ("start", .ofNat w.start.toNat)]

end WatchTime

namespace UpdateSettings

/-- Reads the settings. -/
def decoder : Decoder UpdateSettings :=
  record "Update" (mk <$> optional "update_watch_time" WatchTime.decoder default)

/-- Writes the settings. -/
def toJson (u : UpdateSettings) : Json :=
  .object [("update_watch_time", u.updateWatchTime.toJson)]

end UpdateSettings

namespace Manifest

/-- Reads a manifest. -/
def decoder : Decoder Manifest :=
  record "Manifest" (mk
    <$> required "name" string
    <*> optional "jobs" (list Job.decoder) []
    <*> optional "disk_pools" (list DiskPool.decoder) []
    <*> optional "update" UpdateSettings.decoder default)

/-- Writes a manifest. -/
def toJson (m : Manifest) : Json :=
  .object [
    ("disk_pools", .ofList DiskPool.toJson m.diskPools),
    ("jobs", .ofList Job.toJson m.jobs),
    ("name", .string m.name),
    ("update", m.update.toJson)]

end Manifest

namespace SettingsServer

/-- Reads the settings of a server. -/
def decoder : Decoder SettingsServer :=
  record "Registry" (mk
    <$> optional "username" string ""
    <*> optional "password" string ""
    <*> optional "host" string ""
    <*> optional "port" uint16 0)

/-- Writes the settings of a server. -/
def toJson (s : SettingsServer) : Json :=
  .object [
    ("host", .string s.host),
    ("password", .string s.password),
    ("port", .ofNat s.port.toNat),
    ("username", .string s.username)]

end SettingsServer

namespace TunnelAccess

/-- Reads the settings of a tunnel. -/
def decoder : Decoder TunnelAccess :=
  record "SshTunnelConfig" (mk
    <$> optional "host" string ""
    <*> optional "port" uint16 0
    <*> optional "user" string ""
    <*> optional "password" string ""
    <*> optional "private_key" string "")

/-- Writes the settings of a tunnel. -/
def toJson (t : TunnelAccess) : Json :=
  .object [
    ("host", .string t.host),
    ("password", .string t.password),
    ("port", .ofNat t.port.toNat),
    ("private_key", .string t.privateKey),
    ("user", .string t.user)]

end TunnelAccess

end VmDeploy
