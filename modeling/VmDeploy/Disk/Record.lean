import VmDeploy.Id.Cloud
import VmDeploy.Id.Record
import VmDeploy.Json.Decode
import VmDeploy.Manifest.Basic
import VmDeploy.Time.Timestamp

/-!
# Disk records

What the registry knows of a persistent disk that was made in the cloud. A
record can be exchanged as JSON; identifiers and the time of making are read
by their own readers.
-/

set_option autoImplicit false

namespace VmDeploy

open Json (Decoder)
open Json.Fields (required)
open Json.Decoder (uint64 keyed record any reading)

/-- What is known of a disk. -/
structure DiskRecord where
  id : RecordId
  cid : DiskCid
  /-- In megabytes. -/
  size : UInt64
  cloudProperties : CloudProperties
  createdAt : Timestamp
  deriving Repr

/-- Reads the identifier of a record. -/
def RecordId.decoder : Decoder RecordId := reading IdError.message RecordId.parse

/-- Writes the identifier of a record. -/
def RecordId.toJson (id : RecordId) : Json := .string id.text

/-- Reads the name of a resource. -/
def CloudId.decoder {kind : Resource} : Decoder (CloudId kind) :=
  reading IdError.message CloudId.parse

/-- Writes the name of a resource. -/
def CloudId.toJson {kind : Resource} (id : CloudId kind) : Json := .string id.text

/-- How a point in time is spoken of where something else stands in its place. -/
def Timestamp.expectation : String := "an RFC 3339 formatted date and time string"

/-- Reads a point in time. -/
def Timestamp.decoder : Decoder Timestamp
  | .string s =>
    match Timestamp.parse s with
    | .ok t => .ok t
    | .error fault => .error (.refused fault.message)
  | x => Json.Decoder.refuse Timestamp.expectation x

namespace DiskRecord

/-- Reads a record. -/
def decoder : Decoder DiskRecord :=
  Json.Decoder.record "DiskRecord" (mk
    <$> required "id" RecordId.decoder
    <*> required "cid" CloudId.decoder
    <*> required "size" uint64
    <*> required "cloud_properties" (keyed any)
    <*> required "created_at" Timestamp.decoder)

/-- Writes a record. -/
def toJson (r : DiskRecord) : Json :=
  .object [
    ("cid", r.cid.toJson),
    ("cloud_properties", .object r.cloudProperties),
    ("created_at", .string r.createdAt.text),
    ("id", r.id.toJson),
    ("size", .ofNat r.size.toNat)]

end DiskRecord

end VmDeploy
