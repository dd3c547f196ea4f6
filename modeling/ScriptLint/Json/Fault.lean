import ScriptLint.Json.Value

/-! What can be wrong with a JSON text, and where. -/

namespace ScriptLint.Json

/-- The number of line feeds read plus one, and the number of bytes read since the last of them. -/
structure Place where
  line : Nat
  column : Nat
  deriving DecidableEq, Repr, Inhabited

inductive Cause where
  | endInValue | endInList | endInObject | endInString
  | noValue | noWord | noColon | noListEnd | noObjectEnd
  | trailingComma | trailingText | keyNotString
  | badNumber | numberRange
  | badEscape | loneSurrogate | unpairedSurrogate | controlCharacter
  | tooDeep
  deriving DecidableEq, Repr

def Cause.message : Cause → String
  | endInValue => "EOF while parsing a value"
  | endInList => "EOF while parsing a list"
  | endInObject => "EOF while parsing an object"
  | endInString => "EOF while parsing a string"
  | noValue => "expected value"
  | noWord => "expected ident"
  | noColon => "expected `:`"
  | noListEnd => "expected `,` or `]`"
  | noObjectEnd => "expected `,` or `\x7d`"
  | trailingComma => "trailing comma"
  | trailingText => "trailing characters"
  | keyNotString => "key must be a string"
  | badNumber => "invalid number"
  | numberRange => "number out of range"
  | badEscape => "invalid escape"
  | loneSurrogate => "lone leading surrogate in hex escape"
  | unpairedSurrogate => "unexpected end of hex escape"
  | controlCharacter => "control character (\\u0000-\\u001F) found while parsing a string"
  | tooDeep => "recursion limit exceeded"

structure Fault where
  cause : Cause
  place : Place
  deriving DecidableEq, Repr

def Place.note (place : Place) : String :=
  " at line " ++ toString place.line ++ " column " ++ toString place.column

def Fault.message (fault : Fault) : String := fault.cause.message ++ fault.place.note

end ScriptLint.Json
