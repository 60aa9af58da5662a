/-!
# Cloud errors

A call of the cloud fails in one of three ways: the cloud answers with an
error of a type, the call cannot be made, or the answer cannot be understood.
The error types that say that something is gone decide whether a deletion
counts as done.
-/

set_option autoImplicit false

namespace VmDeploy

/-- The type of an error that the cloud answers with. -/
inductive CloudErrorType where
  | vmNotFound
  | diskNotFound
  | stemcellNotFound
  | other (text : String)
  deriving DecidableEq, Repr

namespace CloudErrorType

/-- The text of a type. -/
def text : CloudErrorType → String
  | .vmNotFound => "Bosh::Clouds::VMNotFound"
  | .diskNotFound => "Bosh::Clouds::DiskNotFound"
  | .stemcellNotFound => "Bosh::Clouds::StemcellNotFound"
  | .other text => text

/-- The type of a text. -/
def parse (s : String) : CloudErrorType :=
  if s = vmNotFound.text then .vmNotFound
  else if s = diskNotFound.text then .diskNotFound
  else if s = stemcellNotFound.text then .stemcellNotFound
  else .other s

/-- A type keeps the text that it was read from. -/
@[simp] theorem text_parse (s : String) : (parse s).text = s := by
  unfold parse
  split
  · rename_i h; exact h.symm
  · split
    · rename_i h; exact h.symm
    · split
      · rename_i h; exact h.symm
      · rfl

/-- Two texts have one type only if they are the same. -/
theorem parse_injective {s t : String} (h : parse s = parse t) : s = t := by
  have := congrArg text h
  simpa using this

end CloudErrorType

/-- Why a call of the cloud failed. -/
inductive CloudError where
  /-- The cloud answered with an error. -/
  | rejected (method : String) (type : CloudErrorType) (message : String) (okToRetry : Bool)
  /-- The call could not be made, for a reason of the system. -/
  | exec (method reason : String)
  /-- The answer is none. -/
  | invalidResponse (method reason : String)
  deriving DecidableEq, Repr

namespace CloudError

/-- The wording of an error. -/
def message : CloudError → String
  | .rejected method type message _ =>
    s!"CPI '{method}' method responded with error: {type.text}: {message}"
  | .exec method _ => s!"Executing CPI command for '{method}'"
  | .invalidResponse method reason => s!"Invalid CPI response for '{method}': {reason}"

/-- The wordings of what caused an error. -/
def causes : CloudError → List String
  | .exec _ reason => [reason]
  | .rejected .. | .invalidResponse .. => []

/-- The type of error that the cloud answered with, if it answered. -/
def type? : CloudError → Option CloudErrorType
  | .rejected _ type _ _ => some type
  | .exec .. | .invalidResponse .. => none

/-- Whether the cloud answered with an error of a type. -/
def is (e : CloudError) (type : CloudErrorType) : Bool := e.type? = some type

end CloudError

end VmDeploy
