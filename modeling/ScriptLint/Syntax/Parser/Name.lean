import ScriptLint.Syntax.Parser.Grammar

/-! Names: references, bindings, and names of properties and members. -/

namespace ScriptLint.Syntax.Parse

def isIdentifier (token : Token) : Bool :=
  match token.kind with
  | .word name => !isReserved name
  | _ => false

def atReference : Parse Bool := do
  let scope ← read
  match ← kind with
  | .word name =>
    return !isReserved name && !(scope.yields && name = "yield") && !(scope.awaits && name = "await")
  | _ => return false

def atIdentifier : Parse Bool := return isIdentifier (← token)

def isWord (token : Token) : Bool :=
  match token.kind with
  | .word _ => true
  | _ => false

def anyName : Parse String := do
  match ← kind with
  | .word name =>
    advanceName
    return name
  | _ => unexpected

def reference : Parse Node := do
  unless ← atReference do unexpected
  let start ← start
  let name ← anyName
  return .identifier (← spanFrom start) name

/-- A name that is bound. Words that are taken by an enclosing generator or asynchronous function are
no such names. -/
def bindingName : Parse Node := do
  unless ← atIdentifier do unexpected
  unless ← atReference do record .reservedName
  let start ← start
  let name ← anyName
  return .identifier (← spanFrom start) name

def nameNode : Parse Node := do
  let start ← start
  let name ← anyName
  return .identifier (← spanFrom start) name

def atString : Parse Bool := do
  match ← kind with
  | .string _ => return true
  | _ => return false

def stringNode : Parse Node := do
  let start ← start
  match ← kind with
  | .string value =>
    advance
    return .literal (← spanFrom start) (.string value)
  | _ => unexpected

def isSimpleName (token : Token) : Bool :=
  match token.kind with
  | .word _ | .string _ | .number _ | .bigint _ | .privateName _ => true
  | _ => false

def propertyName (g : Grammar) : Parse Node := do
  let start ← start
  match ← kind with
  | .word name =>
    advanceName
    return .identifier (← spanFrom start) name
  | .string value =>
    advance
    return .literal (← spanFrom start) (.string value)
  | .number digits =>
    advance
    return .literal (← spanFrom start) (.number digits)
  | .bigint digits =>
    advance
    return .literal (← spanFrom start) (.bigint digits)
  | .mark .bracketOpen =>
    advance
    let key ← g.innerAssignment
    expect .bracketClose
    return key
  | _ => unexpected

def memberName (g : Grammar) : Parse Node := do
  let start ← start
  match ← kind with
  | .privateName _ =>
    advance
    return .construct (← spanFrom start) .privateName []
  | _ => propertyName g

end ScriptLint.Syntax.Parse
