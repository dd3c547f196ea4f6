import ScriptLint.Syntax.Parser.Binding

/-! Lists of type parameters and type arguments, and what comes behind the parameters of a function. -/

namespace ScriptLint.Syntax.Parse

/-- Reads only the first character of a mark that starts with `<`. -/
def splitLess : Parse Unit := do
  if (← atMark .shiftLeft) || (← atMark .shiftLeftAssign) then
    modify fun state =>
      let ahead := state.token.start.next
      { state with token := { state.token with kind := .mark .less, stop := ahead.offset }, ahead }

def joinGreater : Parse Unit := do
  if ← atMark .greater then
    modify fun state =>
      match Lexer.markOf Mark.afterGreater state.token.start with
      | some (mark, ahead) =>
        { state with token := { state.token with kind := .mark mark, stop := ahead.offset }, ahead }
      | none => state

def atTypeArguments : Parse Bool := return (← atMark .less) || (← atMark .shiftLeft)

def typeArguments (g : Grammar) : Parse (List Node) := do
  splitLess
  let found ← bracketed .less .greater g.type
  if found.isEmpty then unexpected
  return found

def typeArgumentsHere (g : Grammar) : Parse (List Node) := do
  if (← typed) && (← atTypeArguments) && !(← onNewLine) then typeArguments g else return []

def typeParameter (g : Grammar) : Parse Node := do
  let start ← start
  allow ["const", "in", "out"] (← modifiers true)
  let name ← bindingName
  let bound ← if ← eatWord "extends" then pure [← g.type] else pure []
  let default ← if ← eat .assign then pure [← g.type] else pure []
  return .construct (← spanFrom start) .typeParameter (name :: (bound ++ default))

def typeParameters (g : Grammar) : Parse (List Node) := do
  if (← typed) && (← atMark .less) then
    let start ← start
    let found ← bracketed .less .greater (typeParameter g)
    if found.isEmpty then unexpected
    return [.construct (← spanFrom start) .typeParameters found]
  return []

def resultType (g : Grammar) : Parse Node := do
  let start ← start
  let predicate ← nextToken fun token => !token.newline && token.kind = .word "is"
  if (← atIdentifier) && predicate then
    let name ← nameNode
    advance
    let type ← g.type
    return .construct (← spanFrom start) .predicateType [name, type]
  g.type

def resultAscription (g : Grammar) : Parse (List Node) := do
  if (← typed) && (← atMark .colon) then
    let start ← start
    advance
    let type ← resultType g
    return [.construct (← spanFrom start) .ascription [type]]
  return []

def signature (g : Grammar) (constructs : Bool) : Parse (List Node) := do
  let types ← typeParameters g
  let found ← parameters g constructs
  let result ← resultAscription g
  return types ++ found ++ result

end ScriptLint.Syntax.Parse
