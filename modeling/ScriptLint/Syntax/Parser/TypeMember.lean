import ScriptLint.Syntax.Parser.TypeArgument

/-! The members of object types and interfaces. -/

namespace ScriptLint.Syntax.Parse

def atIndexSignature : Parse Bool := do
  if !(← atMark .bracketOpen) then return false
  lookahead false do
    advance
    if (← atMark .ellipsis) || (← atMark .bracketClose) then return true
    match ← kind with
    | .word name =>
      if modifierWords.contains name then
        advanceName
        if ← atIdentifier then return true
      else if isReserved name then return false
      else advanceName
    | _ => return false
    if (← atMark .colon) || (← atMark .comma) then return true
    if ← eat .question then
      return (← atMark .colon) || (← atMark .comma) || (← atMark .bracketClose)
    return false

def endTypeMember : Parse Unit := do
  unless ← eat .comma do semicolon

def indexSignature (g : Grammar) : Parse Node := do
  let start ← start
  expect .bracketOpen
  let keyStart ← Parse.start
  let name ← nameNode
  let keys ← ascription g
  let key := Node.construct (← spanFrom keyStart) .parameter (name :: keys)
  expect .bracketClose
  let type ← ascription g
  if keys.isEmpty || type.isEmpty then unexpected
  endTypeMember
  return .construct (← spanFrom start) .indexSignature (key :: type)

def callableMember (g : Grammar) (start : Nat) : Parse Node := do
  let parts ← signature g false
  endTypeMember
  return .construct (← spanFrom start) .typeMember parts

def accessorMember (g : Grammar) (start : Nat) (found : List String) (sets : Bool) : Parse Node := do
  allow [] found
  let name ← propertyName g
  let parts ← signature g false
  let ascribed := parts.any fun
    | .construct _ .ascription _ => true
    | _ => false
  if sets && ascribed then record .misplaced
  endTypeMember
  return .construct (← spanFrom start) .typeMember (name :: parts)

def typeMember (g : Grammar) : Parse Node := do
  let start ← start
  let atHead (token : Token) : Bool := token.kind = .mark .parenOpen || token.kind = .mark .less
  if atHead (← token) then return ← callableMember g start
  if (← atWord "new") && (← nextToken atHead) then
    advance
    return ← callableMember g start
  let found ← modifiers false
  if ← contextual "get" then return ← accessorMember g start found false
  if ← contextual "set" then return ← accessorMember g start found true
  if ← atIndexSignature then
    allow ["readonly"] found
    return ← indexSignature g
  let name ← propertyName g
  let _ ← eat .question
  let callable := atHead (← token)
  allow (if callable then [] else ["readonly"]) found
  let parts ← if callable then signature g false else ascription g
  endTypeMember
  return .construct (← spanFrom start) .typeMember (name :: parts)

def typeMembers (g : Grammar) : Parse (List Node) := do
  expect .braceOpen
  let found ← manyUntil (return (← atMark .braceClose) || (← atEnd)) (typeMember g)
  expect .braceClose
  return found

def plusOrMinus : Parse Bool := do
  if ← eat .plus then return true
  eat .minus

def atMappedType : Parse Bool := do
  if !(← atMark .braceOpen) then return false
  lookahead false do
    advance
    if (← atMark .plus) || (← atMark .minus) then
      advance
      return ← atWord "readonly"
    let _ ← eatWord "readonly"
    unless ← eat .bracketOpen do return false
    unless ← atIdentifier do return false
    advanceName
    atWord "in"

def mappedType (g : Grammar) : Parse Node := do
  let start ← start
  expect .braceOpen
  if ← plusOrMinus then expectWord "readonly" else let _ ← eatWord "readonly"
  expect .bracketOpen
  let name ← nameNode
  expectWord "in"
  let keys ← g.type
  let renamed ← if ← eatWord "as" then pure [← g.type] else pure []
  expect .bracketClose
  if ← plusOrMinus then expect .question else let _ ← eat .question
  let type ← ascription g
  semicolon
  expect .braceClose
  return .construct (← spanFrom start) .mappedType (name :: keys :: (renamed ++ type))

end ScriptLint.Syntax.Parse
