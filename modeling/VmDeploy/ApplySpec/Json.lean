import VmDeploy.ApplySpec.Basic
import VmDeploy.Json.Decode

/-!
# Apply specs as JSON

Decoders and encoders. Of a blob, a checksum and a place that are empty are
left out, and read as empty where they are missing.
-/

set_option autoImplicit false

namespace VmDeploy

open Json (Decoder Fields)
open Json.Fields (required optional)
open Json.Decoder (string uint32 list keyed record any)

namespace Blob

/-- Reads a blob. -/
def decoder : Decoder Blob :=
  record "Blob" (mk
    <$> required "name" string
    <*> required "version" string
    <*> optional "sha1" string ""
    <*> optional "blobstore_id" string "")

/-- The entry of a text, left out if it is empty. -/
def entryUnlessEmpty (key value : String) : Keyed Json :=
  if value = "" then [] else [(key, .string value)]

/-- Writes a blob. -/
def toJson (b : Blob) : Json :=
  .object (
    entryUnlessEmpty "blobstore_id" b.blobstoreId
      ++ [("name", .string b.name)]
      ++ entryUnlessEmpty "sha1" b.sha1
      ++ [("version", .string b.version)])

end Blob

namespace Archive

/-- Reads the place of an archive. -/
def decoder : Decoder Archive :=
  record "RenderedTemplatesArchive"
    (mk <$> required "blobstore_id" string <*> required "sha1" string)

/-- Writes the place of an archive. -/
def toJson (a : Archive) : Json :=
  .object [("blobstore_id", .string a.blobstoreId), ("sha1", .string a.sha1)]

end Archive

namespace AppliedJob

/-- Reads a job. -/
def decoder : Decoder AppliedJob :=
  record "Job" (mk <$> required "name" string <*> required "templates" (list Blob.decoder))

/-- Writes a job. -/
def toJson (j : AppliedJob) : Json :=
  .object [("name", .string j.name), ("templates", .array (j.templates.map Blob.toJson))]

end AppliedJob

/-- Writes packages by name. -/
def packagesToJson (packages : Keyed Blob) : Json :=
  .object (packages.map fun (name, blob) => (name, blob.toJson))

namespace ApplySpec

/-- Reads a spec. -/
def decoder : Decoder ApplySpec :=
  record "ApplySpec" (mk
    <$> required "deployment" string
    <*> required "index" uint32
    <*> required "networks" (keyed any)
    <*> required "job" AppliedJob.decoder
    <*> required "packages" (keyed Blob.decoder)
    <*> required "rendered_templates_archive" Archive.decoder
    <*> required "configuration_hash" string)

/-- Writes a spec. -/
def toJson (s : ApplySpec) : Json :=
  .object [
    ("configuration_hash", .string s.configurationHash),
    ("deployment", .string s.deployment),
    ("index", .ofNat s.index.toNat),
    ("job", s.job.toJson),
    ("networks", .object s.networks),
    ("packages", packagesToJson s.packages),
    ("rendered_templates_archive", s.renderedTemplatesArchive.toJson)]

end ApplySpec

namespace StemcellApplySpec

/-- Reads what an image runs. -/
def decoder : Decoder StemcellApplySpec :=
  record "StemcellApplySpec" (mk
    <$> optional "job" AppliedJob.decoder default
    <*> optional "packages" (keyed Blob.decoder) [])

/-- Writes what an image runs. -/
def toJson (s : StemcellApplySpec) : Json :=
  .object [("job", s.job.toJson), ("packages", packagesToJson s.packages)]

end StemcellApplySpec

namespace AgentState

/-- Reads a state. -/
def decoder : Decoder AgentState := record "AgentState" (mk <$> required "job_state" string)

/-- Writes a state. -/
def toJson (s : AgentState) : Json := .object [("job_state", .string s.jobState)]

end AgentState

end VmDeploy
