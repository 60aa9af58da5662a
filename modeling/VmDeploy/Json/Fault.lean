import VmDeploy.Json.Compact
import VmDeploy.Text.Quoted

/-!
# What can be wrong with a JSON document

A text may not be JSON at all (`SyntaxFault`), or a value may not be of the
shape that is asked for (`ShapeFault`). Both are causes; their wordings are in
`message`. A fault does not say where in the text it was met: the readers carry
no lines and columns along, and what is told of a fault ends before the place.
-/

set_option autoImplicit false

namespace VmDeploy.Json

/-- Why a text is not a JSON value. -/
inductive SyntaxFault where
  | endInList
  | endInObject
  | endInString
  | endInValue
  | expectedColon
  | expectedListEnd
  | expectedObjectEnd
  | expectedWord
  | expectedValue
  | invalidEscape
  | invalidNumber
  | numberOutOfRange
  | invalidCodePoint
  | controlCharacter
  | keyNotString
  | loneSurrogate
  | trailingComma
  | trailingCharacters
  | endOfHexEscape
  | tooDeep
  deriving DecidableEq, Repr

/-- The wording of a fault of the text. -/
def SyntaxFault.message : SyntaxFault → String
  | .endInList => "EOF while parsing a list"
  | .endInObject => "EOF while parsing an object"
  | .endInString => "EOF while parsing a string"
  | .endInValue => "EOF while parsing a value"
  | .expectedColon => "expected `:`"
  | .expectedListEnd => "expected `,` or `]`"
  | .expectedObjectEnd => "expected `,` or `\x7d`"
  | .expectedWord => "expected ident"
  | .expectedValue => "expected value"
  | .invalidEscape => "invalid escape"
  | .invalidNumber => "invalid number"
  | .numberOutOfRange => "number out of range"
  | .invalidCodePoint => "invalid unicode code point"
  | .controlCharacter => "control character (\\u0000-\\u001F) found while parsing a string"
  | .keyNotString => "key must be a string"
  | .loneSurrogate => "lone leading surrogate in hex escape"
  | .trailingComma => "trailing comma"
  | .trailingCharacters => "trailing characters"
  | .endOfHexEscape => "unexpected end of hex escape"
  | .tooDeep => "recursion limit exceeded"

/-- What stands where something else is asked for. -/
inductive Found where
  | null
  | bool (value : Bool)
  | number (value : JsonNumber)
  | string (value : String)
  | sequence
  | map
  deriving DecidableEq, Repr

/-- What a value is found to be. -/
def Found.of : Json → Found
  | .null => .null
  | .bool b => .bool b
  | .number n => .number n
  | .string s => .string s
  | .array _ => .sequence
  | .object _ => .map

/-- The wording for what is found. -/
def Found.message : Found → String
  | .null => "null"
  | .bool b => s!"boolean `{b}`"
  | .number (.integer n) => s!"integer `{n}`"
  | .number (.double x) => s!"floating point `{String.ofList (doubleText x)}`"
  | .string s => s!"string {Text.Quoted.quote s}"
  | .sequence => "sequence"
  | .map => "map"

/-- Why a value has not the shape that is asked for. -/
inductive ShapeFault where
  /-- A value of the wrong kind. -/
  | wrongType (found : Found) (expected : String)
  /-- A value of the right kind that is not among those asked for. -/
  | wrongValue (found : Found) (expected : String)
  /-- A list with the wrong number of items. -/
  | wrongLength (length : Nat) (expected : String)
  | missingField (name : String)
  | duplicateField (name : String)
  /-- A text that its own reader refuses, with the reader's words. -/
  | refused (reason : String)
  deriving DecidableEq, Repr

/-- The wording of a fault of the shape. -/
def ShapeFault.message : ShapeFault → String
  | .wrongType found expected => s!"invalid type: {found.message}, expected {expected}"
  | .wrongValue found expected => s!"invalid value: {found.message}, expected {expected}"
  | .wrongLength length expected => s!"invalid length {length}, expected {expected}"
  | .missingField name => s!"missing field `{name}`"
  | .duplicateField name => s!"duplicate field `{name}`"
  | .refused reason => reason

/-- How a record is spoken of. -/
def recordText (name : String) : String := s!"struct {name}"

/-- How a record is spoken of that is spelled as a list of its fields. -/
def recordListText (name : String) (size : Nat) : String :=
  let noun := if size = 1 then "element" else "elements"
  s!"struct {name} with {size} {noun}"

/-- Why a text cannot be read as a value of a shape. -/
inductive Fault where
  | text (fault : SyntaxFault)
  | shape (fault : ShapeFault)
  deriving DecidableEq, Repr

/-- The wording of a fault, without the line and the column that follow it where the fault was met
in a text. -/
def Fault.message : Fault → String
  | .text fault => fault.message
  | .shape fault => fault.message

end VmDeploy.Json
