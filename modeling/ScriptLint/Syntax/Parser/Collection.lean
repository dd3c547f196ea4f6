import ScriptLint.Syntax.Parser.Class

/-! Array and object literals, and lists of arguments. -/

namespace ScriptLint.Syntax.Parse

def spread (g : Grammar) : Parse Node := do
  let start ← start
  expect .ellipsis
  let argument ← g.innerAssignment
  return .spread (← spanFrom start) argument

def spreadOrValue (g : Grammar) : Parse Node := do
  if ← atMark .ellipsis then spread g else g.innerAssignment

def arguments (g : Grammar) : Parse (List Node) :=
  bracketed .parenOpen .parenClose (spreadOrValue g)

/-- Remembers that a comma follows an item that is spread, which a pattern must not have. -/
def noteComma (start : Nat) (items : List Node) (comma : Bool) : Parse Unit := do
  match items.getLast? with
  | some (.spread _ _) =>
    if comma then modify fun state => { state with afterSpread := start :: state.afterSpread }
  | _ => pure ()

def arrayLiteral (g : Grammar) : Parse Node := do
  let start ← start
  expect .bracketOpen
  let (elements, comma) ← commaList .bracketClose do
    if ← atMark .comma then return .construct (← spanFrom (← Parse.start)) .hole []
    spreadOrValue g
  noteComma start elements comma
  expect .bracketClose
  return .array (← spanFrom start) elements

def objectMethod (g : Grammar) (start : Nat) (manner : Manner) (name : Node) : Parse Node := do
  let head ← functionHead g manner
  let body ← functionBody g manner
  return .construct (← spanFrom start) .objectMethod (name :: (head ++ [body]))

def shorthand (g : Grammar) (start : Nat) : Parse Node := do
  let name ← reference
  match ← initializer g with
  | [] => return .construct (← spanFrom start) .shorthand [name]
  | value =>
    modify fun state => { state with defaults := start :: state.defaults }
    return .construct (← spanFrom start) .shorthandDefault (name :: value)

def atAsyncMethod : Parse Bool := do
  if !(← atWord "async") then return false
  nextToken fun token => !token.newline &&
    (isSimpleName token || token.kind = .mark .bracketOpen || token.kind = .mark .star)

def objectMember (g : Grammar) : Parse Node := do
  let start ← start
  if ← atMark .ellipsis then return ← spread g
  if ← contextual "get" then
    let name ← propertyName g
    let head ← functionHead g {}
    checkGetter head
    let body ← functionBody g {}
    return .construct (← spanFrom start) .getter (name :: (head ++ [body]))
  if ← contextual "set" then
    let name ← propertyName g
    let head ← functionHead g {}
    checkSetter head
    let body ← functionBody g {}
    return .construct (← spanFrom start) .setter (name :: (head ++ [body]))
  let asynchronous ← atAsyncMethod
  if asynchronous then advance
  let manner : Manner := { asynchronous, generator := ← eat .star }
  if asynchronous || manner.generator then
    let name ← propertyName g
    return ← objectMethod g start manner name
  let bare ← nextToken fun token =>
    token.kind != .mark .colon && token.kind != .mark .parenOpen && token.kind != .mark .less
  if (← atReference) && bare then return ← shorthand g start
  let name ← propertyName g
  if (← atMark .parenOpen) || (← atMark .less) then return ← objectMethod g start {} name
  expect .colon
  let value ← g.innerAssignment
  return .construct (← spanFrom start) .property [name, value]

def objectLiteral (g : Grammar) : Parse Node := do
  let start ← start
  expect .braceOpen
  let (members, comma) ← commaList .braceClose (objectMember g)
  noteComma start members comma
  expect .braceClose
  return .object (← spanFrom start) members

end ScriptLint.Syntax.Parse
