import ScriptLint.Syntax.Parser.TypeMember
import ScriptLint.Syntax.Parser.Template

/-! Types. -/

namespace ScriptLint.Syntax.Parse

def entityName : Parse Node := do
  let start ← start
  let first ← nameNode
  iterate (fun owner => do
    if ← eat .dot then
      let property ← anyName
      return .inl (.member (← spanFrom start) owner property false)
    return .inr owner) first

def typeReference (g : Grammar) : Parse Node := do
  let start ← start
  let name ← entityName
  let arguments ← typeArgumentsHere g
  return .construct (← spanFrom start) .typeReference (name :: arguments)

def importOptions (g : Grammar) : Parse (List Node) := do
  if !(← eat .comma) then return []
  if ← atMark .parenClose then return []
  let options ← g.innerAssignment
  let _ ← eat .comma
  return [options]

def importType (g : Grammar) : Parse Node := do
  let start ← start
  let _ ← eatWord "typeof"
  expectWord "import"
  expect .parenOpen
  let source ← stringNode
  let options ← importOptions g
  expect .parenClose
  let qualifier ← if ← eat .dot then pure [← entityName] else pure []
  let arguments ← typeArgumentsHere g
  return .construct (← spanFrom start) .importType (source :: (options ++ qualifier ++ arguments))

def queryType (g : Grammar) : Parse Node := do
  let start ← start
  if ← nextToken fun token => token.kind = .word "import" then return ← importType g
  advance
  let name ← entityName
  let arguments ← typeArgumentsHere g
  return .construct (← spanFrom start) .queryType (name :: arguments)

def atTupleName : Parse Bool := lookahead false do
  let _ ← eat .ellipsis
  unless isWord (← token) do return false
  advanceName
  if ← atMark .colon then return true
  unless ← eat .question do return false
  atMark .colon

def tupleItem (g : Grammar) : Parse Node := do
  let start ← start
  if ← eat .ellipsis then
    let type ← g.type
    return .construct (← spanFrom start) .restType [type]
  g.type

def tupleMember (g : Grammar) : Parse Node := do
  if !(← atTupleName) then return ← tupleItem g
  let start ← start
  let _ ← eat .ellipsis
  let name ← nameNode
  let _ ← eat .question
  expect .colon
  let item ← tupleItem g
  return .construct (← spanFrom start) .tupleMember [name, item]

def tupleType (g : Grammar) : Parse Node := do
  let start ← start
  let members ← bracketed .bracketOpen .bracketClose (tupleMember g)
  return .construct (← spanFrom start) .tupleType members

def oneTokenType (kind : Construct) : Parse Node := do
  let start ← start
  advance
  return .construct (← spanFrom start) kind []

def keywordTypes : List String :=
  ["any", "unknown", "string", "number", "bigint", "symbol", "boolean", "undefined", "never", "object",
    "intrinsic"]

def assertionType (g : Grammar) : Parse Node := do
  let start ← start
  advance
  let name ← nameNode
  let type ← if ← eatWord "is" then pure [← g.type] else pure []
  return .construct (← spanFrom start) .predicateType (name :: type)

def thisType (g : Grammar) : Parse Node := do
  let start ← start
  advance
  if (← atWord "is") && !(← onNewLine) then
    advance
    let type ← g.type
    return .construct (← spanFrom start) .predicateType [type]
  return .construct (← spanFrom start) .keywordType []

def wordType (g : Grammar) (name : String) : Parse Node := do
  if keywordTypes.contains name && !(← nextToken fun token => token.kind = .mark .dot) then
    oneTokenType .keywordType
  else match name with
  | "void" | "null" => oneTokenType .keywordType
  | "true" | "false" => oneTokenType .literalType
  | "this" => thisType g
  | "typeof" => queryType g
  | "import" => importType g
  | "asserts" =>
    if ← nextToken fun token => !token.newline && (isIdentifier token || token.kind = .word "this") then
      assertionType g
    else typeReference g
  | _ => typeReference g

def parenthesizedType (g : Grammar) : Parse Node := do
  let start ← start
  expect .parenOpen
  let type ← inScope ({ · with conditionalTypes := true }) g.type
  expect .parenClose
  return .construct (← spanFrom start) .parenthesizedType [type]

def simpleType (g : Grammar) : Parse Node := do
  let start ← start
  let nested := g.insideType
  match ← kind with
  | .word name => wordType nested name
  | .string _ | .number _ | .bigint _ => oneTokenType .literalType
  | .template _ _ =>
    let (_, items) ← templateParts nested.type
    return .construct (← spanFrom start) .templateType items
  | .mark .minus =>
    advance
    match ← kind with
    | .number _ | .bigint _ =>
      advance
      return .construct (← spanFrom start) .literalType []
    | _ => unexpected
  | .mark .braceOpen =>
    if ← atMappedType then mappedType nested
    else
      let members ← typeMembers nested
      return .construct (← spanFrom start) .typeLiteral members
  | .mark .bracketOpen => tupleType nested
  | .mark .parenOpen => parenthesizedType g
  | _ => unexpected

def startsPlainType (inParameter : Bool) : Parse Bool := do
  match ← kind with
  | .word "await" | .word "yield" => return false
  | .word "function" => return !inParameter
  | .word name =>
    return !isReserved name || ["false", "import", "new", "null", "this", "true", "typeof", "void"].contains name
  | .string _ | .number _ | .bigint _ | .template _ _ => return true
  | .mark .minus =>
    if inParameter then return false
    nextToken fun token =>
      match token.kind with
      | .number _ | .bigint _ => true
      | _ => false
  | .mark mark => return [Mark.braceOpen, .bracketOpen, .less, .bitOr, .bitAnd, .star, .question, .bang,
      .ellipsis].contains mark
  | _ => return false

def startsParameter : Parse Bool := do
  match ← kind with
  | .privateName _ => return true
  | .mark .atSign => return true
  | .word name =>
    if !isReserved name || modifierWords.contains name then return true
    startsPlainType true
  | _ => startsPlainType true

def startsType : Parse Bool := lookahead false <| iterate (fun (_ : Unit) => do
  if !(← eat .parenOpen) then return .inr (← startsPlainType false)
  if (← atMark .parenClose) || (← startsParameter) then return .inr true
  return .inl ()) ()

/-- A type that is said to be nullable by a mark in front of it. The mark may stand for any type, too. -/
def nullableType (g : Grammar) : Parse Node := do
  let start ← start
  expect .question
  if ← atAnyMark [.comma, .braceClose, .parenClose, .greater, .assign, .bitOr] then
    return .construct (← spanFrom start) .keywordType []
  let type ← g.type
  return .construct (← spanFrom start) .nullableType [type]

def markedType (g : Grammar) : Parse Node := do
  let starts ← iterate (fun (found : List Nat) => do
    let here ← start
    if ← eat .bang then return .inl (here :: found)
    return .inr found) []
  let inner ← if ← atMark .question then nullableType g.insideType else simpleType g
  starts.foldlM (fun type start => return .construct (← spanFrom start) .nonNullType [type]) inner

/-- A type with brackets and marks behind it. A question mark in front of another type belongs to a
conditional. -/
def postfixType (g : Grammar) : Parse Node := do
  let start ← start
  let first ← markedType g
  iterate (fun type => do
    if ← onNewLine then return .inr type
    if ← eat .bang then return .inl (.construct (← spanFrom start) .nonNullType [type])
    if ← atMark .question then
      if ← lookahead false (do advance; startsType) then return .inr type
      advance
      return .inl (.construct (← spanFrom start) .nullableType [type])
    if !(← eat .bracketOpen) then return .inr type
    if ← startsType then
      let index ← inScope ({ · with conditionalTypes := true }) g.type
      expect .bracketClose
      return .inl (.construct (← spanFrom start) .indexedType [type, index])
    expect .bracketClose
    return .inl (.construct (← spanFrom start) .arrayType [type])) first

/-- The bound of an inferred type, unless the word belongs to a conditional type around it. -/
def inferBound (g : Grammar) : Parse (List Node) := do
  let bound ← attempt? do
    unless ← eatWord "extends" do return none
    let bound ← inScope ({ · with conditionalTypes := false }) g.type
    if !(← read).conditionalTypes || !(← atMark .question) then return some bound
    return none
  return bound.toList

def inferType (g : Grammar) : Parse Node := do
  let start ← start
  advance
  let nameStart ← Parse.start
  let name ← bindingName
  let bound ← inferBound g
  let parameter := Node.construct (← spanFrom nameStart) .typeParameter (name :: bound)
  return .construct (← spanFrom start) .inferType [parameter]

def operatorType (g : Grammar) : Parse Node := do
  let operators ← iterate (fun (found : List Nat) => do
    let here ← start
    if ← atAnyWord ["keyof", "unique", "readonly"] then
      advance
      return .inl (here :: found)
    return .inr found) []
  let inner ←
    if ← atWord "infer" then inferType g
    else inScope ({ · with conditionalTypes := true }) (postfixType g)
  operators.foldlM (fun type start => return .construct (← spanFrom start) .operatorType [type]) inner

def joinedTypes (mark : Mark) (kind : Construct) (item : Parse Node) : Parse Node := do
  let start ← start
  let leading ← eat mark
  let first ← item
  let types ← iterate (fun (found : List Node) => do
    if ← eat mark then return .inl ((← item) :: found)
    return .inr found.reverse) [first]
  if leading || types.length > 1 then return .construct (← spanFrom start) kind types
  return first

def atFunctionParameters (g : Grammar) : Parse Bool := lookahead false do
  expect .parenOpen
  if (← atMark .parenClose) || (← atMark .ellipsis) then return true
  let _ ← modifiers false
  let started ←
    if (← atIdentifier) || (← atWord "this") then do
      advanceName
      pure true
    else if (← atMark .bracketOpen) || (← atMark .braceOpen) then do
      let _ ← binding g
      pure true
    else pure false
  unless started do return false
  if ← atAnyMark [.colon, .comma, .question, .assign] then return true
  if ← eat .parenClose then return ← atMark .arrow
  return false

def atFunctionType (g : Grammar) : Parse Bool := do
  if (← atMark .less) || (← atWord "new") then return true
  if ← atWord "abstract" then return ← nextToken fun token => token.kind = .word "new"
  if ← atMark .parenOpen then return ← atFunctionParameters g
  return false

def functionType (g : Grammar) : Parse Node := do
  let start ← start
  let _ ← eatWord "abstract"
  let constructs ← eatWord "new"
  let types ← typeParameters g
  let found ← parameters g false
  expect .arrow
  let result ← resultType g
  return .construct (← spanFrom start) (if constructs then .constructorType else .functionType)
    (types ++ found ++ [result])

def type (g : Grammar) : Parse Node := do
  let start ← start
  if ← atFunctionType g then return ← functionType g
  let first ← joinedTypes .bitOr .unionType (joinedTypes .bitAnd .intersectionType (operatorType g))
  if (← read).conditionalTypes && !(← onNewLine) && (← atWord "extends") then
    advance
    let bound ← inScope ({ · with conditionalTypes := false }) g.type
    expect .question
    let yes ← g.type
    expect .colon
    let no ← g.type
    return .construct (← spanFrom start) .conditionalType [first, bound, yes, no]
  return first

def expressionTypeArguments (g : Grammar) (startsExpression : Token → Bool)
    (isOperator : Token → Bool) : Parse (Option (List Node)) := attempt? do
  splitLess
  unless ← atMark .less do return none
  let found ← bracketedOpen
  let next ← token
  match next.kind with
  | .mark .parenOpen | .template _ _ => return some found
  | .mark .less | .mark .greater | .mark .plus | .mark .minus => return none
  | _ =>
    if next.newline || isOperator next || !startsExpression next then return some found
    return none
where
  bracketedOpen : Parse (List Node) := do
    advance
    let (found, _) ← commaList .greater (inScope ({ · with conditionalTypes := true }) g.type)
    if found.isEmpty then unexpected
    joinGreater
    expect .greater
    return found

end ScriptLint.Syntax.Parse
