import VmDeploy.Deployment
import VmDeploy.Digest.Sha256
import VmDeploy.Simulation.World
import VmDeploy.Text.Hex
import VmDeploy.Text.Utf8

/-!
# Reports

What services answer, and what is seen of simulated services and of the
handles on them, as JSON. The
identifiers that a world gave out stand for ones that no report can foretell;
`World.conceal` puts a mark in their place.
-/

set_option autoImplicit false

namespace VmDeploy

/-- What the cloud answered a request with as JSON. -/
def CloudRequest.valueJson : (request : CloudRequest) → request.Value → Json
  | .hasVm _, b => Json.bool b
  | .createDisk _ _ _, cid => CloudId.toJson cid
  | .deleteVm _, _ | .attachDisk _ _, _ | .detachDisk _ _, _ | .deleteDisk _, _
  | .deleteStemcell _, _ => .null

/-- What an agent answered a request with as JSON. -/
def AgentRequest.valueJson : (request : AgentRequest) → request.Value → Json
  | .ping, s => Json.string s
  | .getState, state => AgentState.toJson state
  | .listDisk, disks => Json.ofList CloudId.toJson disks
  | .stop, _ | .apply _, _ | .start, _ | .mountDisk _, _ | .unmountDisk _, _ | .migrateDisk, _ =>
    .null

/-- A note on a step as JSON; it has no message if there is none. -/
def StepEvent.toJson (e : StepEvent) : Json :=
  .ofEntries ([("step", .string e.step), ("index", .ofNat e.index), ("state", .string e.state.text)]
    ++ (e.message.map fun message => ("message", Json.string message)).toList)

/-- A disk as JSON. -/
def Disk.toJson (d : Disk) : Json :=
  .ofEntries [
    ("cid", d.cid.toJson), ("size", .ofNat d.record.size.toNat),
    ("cloud_properties", .object d.record.cloudProperties), ("tracked", .bool d.tracked)]

/-- An image as JSON. -/
def Stemcell.toJson (s : Stemcell) : Json :=
  .ofEntries [
    ("cid", s.cid.toJson), ("name", .string s.name), ("version", .string s.version),
    ("debug", .string s.diagnostic)]

/-- What is left of a deployment as JSON. -/
def Deployment.toJson (d : Deployment) : Json :=
  .ofEntries [
    ("instances", .array (d.instances.map fun i => .string s!"{i.slot}:{i.lifecycle.text}")),
    ("disks", Json.ofList (fun disk : Disk => disk.cid.toJson) d.disks),
    ("stemcells", Json.ofList (fun s : Stemcell => s.cid.toJson) d.stemcells)]

namespace Simulation

/-- So many bytes are shown in full. -/
def shownBytes : Nat := 200

/-- Bytes that were received as text, long ones by their number and digest. -/
def bytesJson (bytes : List UInt8) : Json :=
  if shownBytes < bytes.length then
    .ofEntries [
      ("len", .ofNat bytes.length),
      ("sha256", .string (String.ofList (Text.Hex.encode (Digest.Sha256.digest bytes))))]
  else .string (String.ofList (Text.Utf8.decodeLossy bytes))

/-- A recorded disk as JSON. -/
def ShownRecord.toJson (r : ShownRecord) : Json :=
  .ofEntries [("cid", .string r.cid), ("size", .ofNat r.size.toNat), ("current", .bool r.current)]

/-- What was seen, as the entries of an object; nothing is said of what did not happen. -/
def Observation.entries (o : Observation) : List (String × Json) :=
  let entry (key : String) (happened : Bool) (value : Json) : List (String × Json) :=
    if happened then [(key, value)] else []
  entry "trace" (!o.trace.isEmpty) (Json.ofList .string o.trace)
    ++ entry "events" (!o.events.isEmpty) (Json.ofList StepEvent.toJson o.events)
    ++ entry "warnings" (!o.warnings.isEmpty) (Json.ofList .string o.warnings)
    ++ (o.registry.map fun r => ("registry", Json.ofList ShownRecord.toJson r)).toList
    ++ entry "elapsed_ms" (o.elapsed.toMillis ≠ 0) (.ofNat o.elapsed.toMillis)

namespace World

/-- Whether the world gave out an identifier. -/
def gaveOut (w : World) (id : RecordId) : Bool :=
  (List.range w.identifiers).any fun n => identifier n = id

/-- A recorded disk as JSON, without the time of making where the world made the record. -/
def recordJson (w : World) (r : DiskRecord) : Json :=
  let createdAt : Json := if w.gaveOut r.id then .null else .string r.createdAt.text
  .ofEntries [
    ("id", r.id.toJson), ("cid", r.cid.toJson), ("size", .ofNat r.size.toNat),
    ("cloud_properties", .object r.cloudProperties), ("created_at", createdAt)]

/-- What stands in the place of the digits of an identifier that the world gave out. -/
def concealed : String := "#"

/-- A text that follows the beginning of an identifier, with a mark for the digits of one that
the world gave out. -/
def concealDigits (w : World) (behind : String) : String :=
  let digits := behind.toList.take RecordId.digitCount
  match RecordId.parseDigits digits with
  | .ok id =>
    if w.gaveOut id then concealed ++ String.ofList (behind.toList.drop RecordId.digitCount)
    else behind
  | .error _ => behind

/-- A text with a mark in every identifier that the world gave out. -/
def concealText (w : World) (s : String) : String :=
  let start := RecordId.kindPrefix ++ "_"
  match s.splitOn start with
  | [] => s
  | first :: rest => start.intercalate (first :: rest.map w.concealDigits)

mutual

/-- A value with a mark in every identifier that the world gave out. -/
def conceal (w : World) : Json → Json
  | .string s => .string (w.concealText s)
  | .array items => .array (w.concealItems items)
  | .object fields => .object (w.concealFields fields)
  | x => x

/-- Conceals identifiers in the items of an array. -/
def concealItems (w : World) : List Json → List Json
  | [] => []
  | x :: rest => w.conceal x :: w.concealItems rest

/-- Conceals identifiers in the values of an object. -/
def concealFields (w : World) : List (String × Json) → List (String × Json)
  | [] => []
  | (key, x) :: rest => (key, w.conceal x) :: w.concealFields rest

end

end World

end Simulation

end VmDeploy
