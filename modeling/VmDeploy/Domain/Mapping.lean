import VmDeploy.Domain.Mapping.Runs
import VmDeploy.Domain.Mapping.Texts
import VmDeploy.Domain.Valid

/-!
# Usual forms

A domain name can be written in more than one way: with capital letters, with
wide or joined letters, with characters that show nothing. Each character has a
usual form, in which all ways of writing agree; one that shows nothing has the
empty form, and a character that no name has has none.
-/

set_option autoImplicit false

namespace VmDeploy.Domain

/-- The characters that are passed over. -/
def ignoredRows : List String := [
  "ad 1 2a1 1 e0f 2 653 2 55 5 7fb 1 54 5 5 6 10f4 1 cc9b 10 ef 1 a0 1 bcff 4 14cf 8 c2f85 f0"]

/-- The characters that are passed over, as a table. -/
def ignored : StepTable Bool := .ofSetRows ignoredRows

/-- The usual form of a character. -/
def form? (c : Char) : Option (List Char) :=
  if isValid c then some [c]
  else if ignored.contains c then some []
  else ((runForm? c).map fun d => [d]) <|> textForm? c

/-- The usual form of a text. -/
def forms? (s : List Char) : Option (List Char) := (s.mapM form?).map List.flatten

end VmDeploy.Domain
