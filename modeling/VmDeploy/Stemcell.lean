import VmDeploy.Services

/-!
# Stemcells

A stemcell is a machine image that was brought to the cloud.
-/

set_option autoImplicit false

namespace VmDeploy

/-- An image in the cloud. -/
structure Stemcell where
  cid : StemcellCid
  name : String
  version : String
  deriving DecidableEq, Repr

namespace Stemcell

/-- The diagnostic text of an image. -/
def diagnostic (s : Stemcell) : String :=
  "CloudStemcell \x7b cid: StemcellCid(" ++ Text.Quoted.quote s.cid.text
    ++ "), name: " ++ Text.Quoted.quote s.name
    ++ ", version: " ++ Text.Quoted.quote s.version ++ ", .. \x7d"

/-- Deletes an image in the cloud. -/
def delete (s : Stemcell) : Action Unit := Action.cloud (.deleteStemcell s.cid)

end Stemcell

end VmDeploy
