import VmDeploy.Json.Compact
import VmDeploy.Text.Quoted

/-!
# Diagnostic texts of JSON values

Messages name the kind of every value but the entries of an object, and show
strings as quoted text.
-/

set_option autoImplicit false

namespace VmDeploy.Json

mutual

/-- The diagnostic text of a value. -/
def diagnostic : Json → String
  | .null => "Null"
  | .bool true => "Bool(true)"
  | .bool false => "Bool(false)"
  | .number n => "Number(" ++ String.ofList (numberText n) ++ ")"
  | .string s => "String(" ++ Text.Quoted.quote s ++ ")"
  | .array items => "Array [" ++ diagnosticItems true items ++ "]"
  | .object fields => "Object \x7b" ++ diagnosticFields true fields ++ "\x7d"

/-- The diagnostic texts of items. -/
def diagnosticItems (first : Bool) : List Json → String
  | [] => ""
  | x :: rest => (if first then "" else ", ") ++ diagnostic x ++ diagnosticItems false rest

/-- The diagnostic texts of entries. -/
def diagnosticFields (first : Bool) : List (String × Json) → String
  | [] => ""
  | (key, x) :: rest =>
    (if first then "" else ", ") ++ Text.Quoted.quote key ++ ": " ++ diagnostic x
      ++ diagnosticFields false rest

end

/-- The diagnostic text of the entries of an object. -/
def diagnosticMap (fields : Keyed Json) : String := "\x7b" ++ diagnosticFields true fields ++ "\x7d"

end VmDeploy.Json
