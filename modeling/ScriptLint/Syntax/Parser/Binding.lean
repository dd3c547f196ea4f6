import ScriptLint.Syntax.Parser.Modifier

/-! Names and patterns that are bound, with their types and defaults. -/

namespace ScriptLint

namespace Node

mutual
def boundNames : Node → List String
  | .identifier _ name => [name]
  | .construct _ .arrayPattern items | .construct _ .objectPattern items => boundNamesAll items
  | .construct _ .patternProperty [_, value] => value.boundNames
  | .construct _ .patternProperty [bound] | .construct _ .rest [bound] => bound.boundNames
  | .construct _ .defaulted (bound :: _) => bound.boundNames
  | _ => []

def boundNamesAll : List Node → List String
  | [] => []
  | item :: rest => item.boundNames ++ boundNamesAll rest
end

end Node

namespace Syntax.Parse

def ascription (g : Grammar) : Parse (List Node) := do
  if (← typed) && (← atMark .colon) then
    let start ← start
    advance
    let type ← g.type
    return [.construct (← spanFrom start) .ascription [type]]
  return []

def initializer (g : Grammar) : Parse (List Node) := do
  if ← eat .assign then return [← g.innerAssignment]
  return []

def defaultedBinding (g : Grammar) (binding : Parse Node) : Parse Node := do
  let start ← start
  let bound ← binding
  match ← initializer g with
  | [] => return bound
  | value => return .construct (← spanFrom start) .defaulted (bound :: value)

def restBinding (g : Grammar) : Parse Node := do
  let start ← start
  expect .ellipsis
  let bound ← g.binding
  return .construct (← spanFrom start) .rest [bound]

def isRest : Node → Bool
  | .construct _ .rest _ | .construct _ .restParameter _ => true
  | _ => false

def checkRest (items : List Node) (comma : Bool) : Parse Unit := do
  if items.dropLast.any isRest || (comma && items.getLast?.any isRest) then fail .misplaced

def arrayPattern (g : Grammar) : Parse Node := do
  let start ← start
  expect .bracketOpen
  let (elements, comma) ← commaList .bracketClose do
    if ← atMark .comma then return .construct (← spanFrom (← Parse.start)) .hole []
    if ← atMark .ellipsis then restBinding g else defaultedBinding g g.binding
  checkRest elements comma
  expect .bracketClose
  return .construct (← spanFrom start) .arrayPattern elements

def patternProperty (g : Grammar) : Parse Node := do
  let start ← start
  if ← atMark .ellipsis then return ← restBinding g
  let shorthand ← nextToken fun token => token.kind != .mark .colon
  if (← atIdentifier) && shorthand then
    let bound ← defaultedBinding g bindingName
    return .construct (← spanFrom start) .patternProperty [bound]
  let key ← propertyName g
  expect .colon
  let value ← defaultedBinding g g.binding
  return .construct (← spanFrom start) .patternProperty [key, value]

/-- All the rest of an object has a name and is not taken apart. -/
def checkRestName (items : List Node) : Parse Unit := do
  match items.getLast? with
  | some (.construct _ .rest [.identifier _ _]) => pure ()
  | some (.construct _ .rest _) => fail .misplaced
  | _ => pure ()

def objectPattern (g : Grammar) : Parse Node := do
  let start ← start
  expect .braceOpen
  let (properties, comma) ← commaList .braceClose (patternProperty g)
  checkRest properties comma
  checkRestName properties
  expect .braceClose
  return .construct (← spanFrom start) .objectPattern properties

def binding (g : Grammar) : Parse Node := do
  if ← atMark .bracketOpen then arrayPattern g
  else if ← atMark .braceOpen then objectPattern g
  else bindingName

def decorator (g : Grammar) : Parse Node := do
  let start ← start
  expect .atSign
  let target ← inScope ({ · with decorating := true }) g.operand
  return .construct (← spanFrom start) .decorator [target]

def decorators (g : Grammar) : Parse (List Node) :=
  manyUntil (return !(← atMark .atSign)) (decorator g)

def parameterModifiers (constructs : Bool) : List String :=
  if constructs then accessibility ++ ["override", "readonly"] else ["readonly"]

def parameter (g : Grammar) (constructs : Bool) : Parse Node := do
  let start ← start
  let decorations ← decorators g
  let found ← modifiers false
  allow (if ← typed then parameterModifiers constructs else []) found
  if ← eat .ellipsis then
    let bound ← g.binding
    let type ← ascription g
    return .construct (← spanFrom start) .restParameter (decorations ++ bound :: type)
  let bound ← g.binding
  if ← typed then let _ ← eat .question
  let type ← ascription g
  let value ← initializer g
  return .construct (← spanFrom start) .parameter (decorations ++ bound :: (type ++ value))

def thisParameter (g : Grammar) : Parse (List Node) := do
  if !(← typed) || !(← atWord "this") then return []
  let start ← start
  let name ← nameNode
  let type ← ascription g
  let found := Node.construct (← spanFrom start) .thisParameter (name :: type)
  unless ← atMark .parenClose do expect .comma
  return [found]

def isThisParameter : Node → Bool
  | .construct _ .thisParameter _ => true
  | _ => false

def parameters (g : Grammar) (constructs : Bool) : Parse (List Node) := do
  expect .parenOpen
  let receiver ← thisParameter g
  let (found, comma) ←
    commaList .parenClose (inScope ({ · with inOperator := true }) (parameter g constructs))
  checkRest found (comma && !(← read).ambient)
  expect .parenClose
  return receiver ++ found

end Syntax.Parse
end ScriptLint
