import ScriptLint.Json.Reader

/-! The level at which a rule is set, and the severity that its findings then have. A level is
written as a word, as a number, or as the first item of a list. -/

namespace ScriptLint

inductive Severity where
  | error | warning
  deriving DecidableEq, Repr

def Severity.text : Severity → String
  | error => "error"
  | warning => "warning"

inductive Level where
  | off | warn | error
  deriving DecidableEq, Repr, Inhabited

namespace Level

def text : Level → String
  | off => "off"
  | warn => "warn"
  | error => "error"

def severity? : Level → Option Severity
  | off => none
  | warn => some .warning
  | error => some .error

def isEnabled (level : Level) : Bool := level != off

def ofWord? : String → Option Level
  | "off" => some off
  | "warn" => some warn
  | "error" => some error
  | _ => none

def ofNatural? (value : UInt64) : Option Level :=
  if value = 0 then some off else if value = 1 then some warn else if value = 2 then some error else none

def ofJson? : Json.Value → Option Level
  | .string word => ofWord? word
  | .number (.natural value) => ofNatural? value
  | .array (item :: _) => ofJson? item
  | _ => none

def complaint (value : Json.Value) : String :=
  "invalid severity " ++ value.render ++ ", expected \"off\", \"warn\", \"error\", 0, 1 or 2"

inductive Fault where
  | json (fault : Json.Fault)
  | notLevel (value : Json.Value)

def Fault.message : Fault → String
  | json fault => fault.message
  | notLevel value => complaint value

/-- The level that a JSON text stands for. A value that is no level is reported before what follows it. -/
def ofText (text : String) : Except Fault Level :=
  let start := Json.Cursor.ofText text
  match Json.Reader.value (Json.Reader.fuelFor start) 0 start with
  | .error fault => .error (.json fault)
  | .ok (value, cursor) =>
    match ofJson? value with
    | none => .error (.notLevel value)
    | some level =>
      match Json.Reader.finish cursor with
      | .error fault => .error (.json fault)
      | .ok () => .ok level

end Level
end ScriptLint
