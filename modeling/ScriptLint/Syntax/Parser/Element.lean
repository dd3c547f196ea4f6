import ScriptLint.Syntax.Parser.Collection

/-! Elements: tags with attributes, and text, elements and expressions between an opening and a closing
tag. An element is read up to its last `>`, since what follows that is text in one place and an
operator in another. -/

namespace ScriptLint

namespace TagName

def ofWord (name : String) : TagName :=
  match name.toList with
  | c :: rest =>
    if (c :: rest).contains '-' then intrinsic name
    else if name = "this" then this
    else if c.isUpper || c = '_' || c = '$' || 0x80 ≤ c.toNat then reference name
    else intrinsic name
  | [] => intrinsic name

def text : TagName → String
  | intrinsic name | reference name => name
  | namespaced space name => space ++ ":" ++ name
  | member owner property => owner.text ++ "." ++ property
  | this => "this"

end TagName

namespace Syntax.Parse

def joinHyphens : Parse Unit := do
  match ← kind with
  | .word name =>
    modify fun state =>
      let (more, ahead) := state.ahead.takeWhile fun c => c = '-' || Text.Identifier.isPart c
      if more.isEmpty then state
      else
        let kind := TokenKind.word (name ++ String.ofList more)
        { state with token := { state.token with kind, stop := ahead.offset }, ahead }
  | _ => pure ()

def hyphenated : Parse String := do
  if (← token).escaped then record .escapedKeyword
  joinHyphens
  anyName

def tagName : Parse TagName := do
  let first ← hyphenated
  if ← eat .colon then return .namespaced first (← hyphenated)
  let owner := TagName.ofWord first
  if !(← atMark .dot) then return owner
  if first.toList.contains '-' then unexpected
  let owner := if first = "this" then TagName.this else .reference first
  iterate (fun (owner : TagName) => do
    if ← eat .dot then
      let property ← hyphenated
      if property.toList.contains '-' then fail .misplaced
      return .inl (.member owner property)
    return .inr owner) owner

def attributeText : Parse (Option Node) := do
  let state ← get
  match Lexer.skipTrivia state.ahead.fuel state.ahead false with
  | .error issue => throw issue
  | .ok (_, start) =>
    match start.rest with
    | quote :: _ =>
      if quote = '"' || quote = '\'' then
        let (_, close) := start.next.takeWhile (· != quote)
        if close.rest.isEmpty then throw .unterminatedString
        let behind := close.next
        let (token, ahead) := Lexer.token behind
        set { state with token, ahead, before := behind.offset }
        return some (.construct ⟨start.offset, behind.offset⟩ .attributeText [])
      return none
    | [] => return none

def attributeValue (g : Grammar) : Parse (List Node) := do
  if !(← atMark .assign) then return []
  match ← attributeText with
  | some text => return [text]
  | none =>
    advance
    let start ← start
    if ← eat .braceOpen then
      if ← atMark .braceClose then unexpected
      let inner ← g.inner
      expect .braceClose
      return [.construct (← spanFrom start) .container [inner]]
    if ← atMark .less then
      let inner ← g.element
      advance
      return [inner]
    unexpected

def elementAttribute (g : Grammar) : Parse Node := do
  let start ← start
  if ← eat .braceOpen then
    expect .ellipsis
    let argument ← g.innerAssignment
    expect .braceClose
    return .construct (← spanFrom start) .spreadAttribute [argument]
  let _ ← hyphenated
  if ← eat .colon then let _ ← hyphenated
  let value ← attributeValue g
  return .construct (← spanFrom start) .elementAttribute value

def spanThrough (start : Nat) : Parse Span := return ⟨start, (← token).stop⟩

def container (g : Grammar) : Parse Node := do
  let start ← start
  expect .braceOpen
  if ← eat .ellipsis then
    let argument ← g.inner
    requireMark .braceClose
    return .construct (← spanThrough start) .spreadChild [argument]
  if ← atMark .braceClose then return .construct (← spanThrough start) .emptyContainer []
  let inner ← g.inner
  requireMark .braceClose
  return .construct (← spanThrough start) .container [inner]

/-- Text between tags, which becomes the token before what follows it. -/
def elementText : Parse Node := do
  let state ← get
  let (_, ahead) := state.ahead.takeWhile fun c => c != '<' && c != '{' && c != '>' && c != '}'
  match ahead.rest with
  | '>' :: _ => throw .rawGreater
  | '}' :: _ => throw .rawBrace
  | _ =>
    let start := state.ahead
    set { state with token := { state.token with start, stop := ahead.offset }, ahead }
    return .construct ⟨start.offset, ahead.offset⟩ .elementText []

def content (g : Grammar) : Parse (List Node) :=
  iterate (fun (found : List Node) => do
    match (← get).ahead.rest with
    | '<' :: _ =>
      advanceName
      unless ← atMark .less do unexpected
      if ← nextToken fun token => token.kind = .mark .slash then
        advance
        return .inr found.reverse
      return .inl ((← g.element) :: found)
    | '{' :: _ =>
      advanceName
      return .inl ((← container g) :: found)
    | [] =>
      advanceName
      unexpected
    | _ => return .inl ((← elementText) :: found)) []

def closing (name : Option TagName) : Parse Unit := do
  expect .slash
  let found ← if ← atMark .greater then pure none else some <$> tagName
  match name, found with
  | some name, some found => if name.text != found.text then fail (.unclosedElement name.text)
  | some name, none => fail (.unclosedElement name.text)
  | none, some _ => unexpected
  | none, none => pure ()
  requireMark .greater

def element (g : Grammar) : Parse Node := do
  let start ← start
  expect .less
  if ← atMark .greater then
    let inside ← content g
    closing none
    return .construct (← spanThrough start) .fragment inside
  let name ← tagName
  let types ← if (← typed) && (← atTypeArguments) then typeArguments g else pure []
  let attributes ← manyUntil (do
    return (← atMark .slash) || (← atMark .greater) || (← atEnd)) (elementAttribute g)
  if ← eat .slash then
    requireMark .greater
    return .element (← spanThrough start) name types attributes []
  unless ← atMark .greater do unexpected
  let inside ← content g
  closing (some name)
  return .element (← spanThrough start) name types attributes inside

def elementExpression (g : Grammar) : Parse Node := do
  let found ← g.element
  advance
  return found

end Syntax.Parse
end ScriptLint
