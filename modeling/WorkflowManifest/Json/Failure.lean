import WorkflowManifest.Text.Position
import WorkflowManifest.Text.Quoted

namespace WorkflowManifest.Json

/-- The kinds of value that messages tell apart. Integers are named by their literal while they fit
a machine word; any other number is just a number. -/
inductive Kind where
  | null
  | bool (b : Bool)
  | integer (literal : String)
  | number
  | string (s : String)
  | sequence
  | map
  deriving DecidableEq

inductive Wanted where
  | map
  | numberText
  deriving DecidableEq

inductive Cause where
  | endOfValue
  | endOfString
  | endOfList
  | endOfObject
  | expectedValue
  | expectedLiteral
  | expectedColon
  | expectedListEnd
  | expectedObjectEnd
  | invalidNumber
  | invalidEscape
  | controlCharacter
  | loneSurrogate
  | unfinishedSurrogate
  | keyNotString
  | trailingComma
  | trailingCharacters
  | tooDeep
  | wrongType (found : Kind) (wanted : Wanted)
  deriving DecidableEq

structure Failure where
  cause : Cause
  position : Position
  deriving DecidableEq

def Kind.text : Kind → String
  | .null => "null"
  | .bool true => "boolean `true`"
  | .bool false => "boolean `false`"
  | .integer literal => s!"integer `{literal}`"
  | .number => "number"
  | .string s => s!"string {Text.quoted s}"
  | .sequence => "sequence"
  | .map => "map"

def Wanted.text : Wanted → String
  | .map => "a map"
  | .numberText => "string containing a number"

def Cause.message : Cause → String
  | .endOfValue => "EOF while parsing a value"
  | .endOfString => "EOF while parsing a string"
  | .endOfList => "EOF while parsing a list"
  | .endOfObject => "EOF while parsing an object"
  | .expectedValue => "expected value"
  | .expectedLiteral => "expected ident"
  | .expectedColon => "expected `:`"
  | .expectedListEnd => "expected `,` or `]`"
  | .expectedObjectEnd => "expected `,` or `\x7d`"
  | .invalidNumber => "invalid number"
  | .invalidEscape => "invalid escape"
  | .controlCharacter => "control character (\\u0000-\\u001F) found while parsing a string"
  | .loneSurrogate => "lone leading surrogate in hex escape"
  | .unfinishedSurrogate => "unexpected end of hex escape"
  | .keyNotString => "key must be a string"
  | .trailingComma => "trailing comma"
  | .trailingCharacters => "trailing characters"
  | .tooDeep => "recursion limit exceeded"
  | .wrongType found wanted => s!"invalid type: {found.text}, expected {wanted.text}"

def Failure.message (f : Failure) : String := s!"{f.cause.message} at {f.position.text}"

end WorkflowManifest.Json
