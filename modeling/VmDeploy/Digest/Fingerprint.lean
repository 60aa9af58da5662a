import VmDeploy.Digest.Sha256
import VmDeploy.Json.Compact
import VmDeploy.Text.Utf8

/-!
# Fingerprints of JSON documents

The digest of the canonical text of a document, in hexadecimal. Documents that
differ in the order of their entries alone have the same fingerprint.
-/

set_option autoImplicit false

namespace VmDeploy.Digest

/-- The hexadecimal digest of a text. -/
def hexOfText (s : String) : String :=
  String.ofList (Text.Hex.encode (Sha256.digest (Text.Utf8.encode s)))

/-- The fingerprint of a document. -/
def fingerprint (document : Json) : String := hexOfText document.canonical

end VmDeploy.Digest
