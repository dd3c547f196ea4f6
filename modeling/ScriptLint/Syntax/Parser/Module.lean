import ScriptLint.Syntax.Parser.Declaration

/-! Imports and exports. -/

namespace ScriptLint

namespace Node

def exchangedName? : Node → Option String
  | .identifier _ name | .literal _ (.string name) => some name
  | _ => none

def declaredNames : Node → List String
  | .construct _ .bindings found => found.flatMap fun
    | .construct _ .binding (bound :: _) => bound.boundNames
    | _ => []
  | .construct _ .function parts | .construct _ .classDefinition parts =>
    (parts.findSome? fun
      | .identifier _ name => some name
      | _ => none).toList
  | _ => []

def exportedNames : Node → List String
  | .construct _ .exporting parts => parts.flatMap fun
    | .construct _ .specifier names => (names.getLast?.bind exchangedName?).toList
    | part => part.declaredNames
  | .construct _ .exportingDefault _ => ["default"]
  | .construct _ .exportingAll (name :: .literal _ _ :: _) => name.exchangedName?.toList
  | _ => []

end Node

namespace Syntax.Parse

def exchangedName : Parse Node := do
  if ← atString then stringNode else nameNode

def isWordNamed (name : String) : Node → Bool
  | .identifier _ found => found = name
  | _ => false

def atExchangedName : Parse Bool := return isWord (← token) || (← atString)

structure Exchange where
  outer : Node
  inner : Node
  marked : Bool

/-- The rest of an item behind `type`, which may be a name itself or a mark of types. Also tells whether
another name may follow. -/
def exchangeType (first : Node) : Parse (Exchange × Bool) := do
  if ← atWord "as" then
    let firstAs ← nameNode
    if ← atWord "as" then
      let secondAs ← nameNode
      if ← atExchangedName then
        let inner ← exchangedName
        return (⟨firstAs, inner, true⟩, false)
      return (⟨first, secondAs, false⟩, false)
    if ← atExchangedName then
      let inner ← exchangedName
      return (⟨first, inner, false⟩, false)
    return (⟨firstAs, firstAs, true⟩, true)
  if ← atExchangedName then
    let name ← exchangedName
    return (⟨name, name, true⟩, true)
  return (⟨first, first, false⟩, true)

def exchange : Parse Exchange := do
  let first ← exchangedName
  let (found, renames) ←
    if (← typed) && isWordNamed "type" first then exchangeType first
    else pure (⟨first, first, false⟩, true)
  if renames && (← atWord "as") then
    advance
    return { found with inner := ← exchangedName }
  return found

def exchanges (types : Bool) : Parse (List Exchange) := do
  let found ← bracketed .braceOpen .braceClose exchange
  if types && found.any Exchange.marked then record .misplaced
  return found

def isVariableName : Node → Bool
  | .identifier _ name => !isReserved name
  | _ => false

/-- The words that no variable of a module has as its name, although they can be names elsewhere. -/
def isTakenName : Node → Bool
  | .identifier _ name => ["await", "implements", "interface", "package", "private", "protected", "public",
      "static", "yield"].contains name
  | _ => false

def exchangeNode (found : Exchange) : Node :=
  let span := found.outer.span.through found.inner.span
  if found.outer.span = found.inner.span then .construct span .specifier [found.outer]
  else .construct span .specifier [found.outer, found.inner]

def attributeEntry : Parse Node := do
  let start ← start
  let name ← exchangedName
  expect .colon
  let value ← stringNode
  return .construct (← spanFrom start) .importAttribute [name, value]

def importAttributes : Parse (List Node) := do
  let marked ← do
    if ← atWord "with" then pure true
    else if ← atWord "assert" then pure !(← onNewLine)
    else pure false
  if !marked then return []
  advance
  let found ← bracketed .braceOpen .braceClose attributeEntry
  let names := found.map fun entry => match entry with
    | .construct _ _ (name :: _) => name.exchangedName?
    | _ => none
  if names.eraseDups.length != names.length then record .repeatedName
  return found

def importSource : Parse (List Node) := do
  let source ← stringNode
  let attributes ← importAttributes
  semicolon
  return source :: attributes

def importList (types : Bool) : Parse (List Node) := do
  let found ← exchanges types
  let awaits := (← read).awaits
  unless found.all fun each => isVariableName each.inner && !(awaits && isWordNamed "await" each.inner) do
    record .reservedName
  return found.map exchangeNode

def importAll : Parse (List Node) := do
  expect .star
  expectWord "as"
  return [← bindingName]

def importNames (types : Bool) : Parse (List Node) := do
  if ← atMark .star then importAll
  else if ← atMark .braceOpen then importList types
  else unexpected

def atTypeImport : Parse Bool := do
  if !(← typed) || !(← atWord "type") then return false
  lookahead false do
    advance
    if (← atMark .star) || (← atMark .braceOpen) then return true
    if !(← atIdentifier) then return false
    if !(← atWord "from") then return true
    nextToken fun token => token.kind = .word "from" || token.kind = .mark .assign

def atImportPhase : Parse Bool := do
  if ← atWord "defer" then return ← nextToken fun token => token.kind = .mark .star
  if ← atWord "source" then
    return ← lookahead false do
      advance
      if !(← atIdentifier) then return false
      if !(← atWord "from") then return true
      nextToken fun token => token.kind = .word "from"
  return false

def importDeclaration (start : Nat) : Parse Node := do
  expectWord "import"
  if ← atString then
    modify ({ · with modular := true })
    let source ← importSource
    return .construct (← spanFrom start) .importing source
  let types ← atTypeImport
  if types then advance
  else if ← atImportPhase then advance
  let first ← if ← atIdentifier then pure [← bindingName] else pure []
  match first with
  | [name] =>
    if (← typed) && (← atMark .assign) then return ← importAliasRest start name
  | _ => pure ()
  modify ({ · with modular := true })
  let listed ← if first.isEmpty then pure true else eat .comma
  let more ← if listed then importNames types else pure []
  expectWord "from"
  let source ← importSource
  return .construct (← spanFrom start) .importing (first ++ more ++ source)

def exportAll (start : Nat) : Parse Node := do
  expect .star
  let name ← if ← eatWord "as" then pure [← exchangedName] else pure []
  expectWord "from"
  let source ← importSource
  return .construct (← spanFrom start) .exportingAll (name ++ source)

def exportList (start : Nat) (types : Bool) : Parse Node := do
  let found ← exchanges types
  if ← eatWord "from" then
    let source ← importSource
    return .construct (← spanFrom start) .exporting (found.map exchangeNode ++ source)
  -- without a source these are variables of this module
  unless found.all fun each => isVariableName each.outer && !isTakenName each.outer do record .reservedName
  semicolon
  return .construct (← spanFrom start) .exporting (found.map exchangeNode)

def moreDecorators (g : Grammar) (before : List Node) : Parse (List Node) := do
  let found ← decorators g
  unless before.isEmpty || found.isEmpty do record .misplaced
  return before ++ found

def checkDecorated (decorations : List Node) : Node → Parse Unit
  | .construct _ .classDefinition _ => pure ()
  | _ => unless decorations.isEmpty do record .misplaced

def exportDefault (g : Grammar) (start : Nat) (decorations : List Node) : Parse Node := do
  advance
  let here ← Parse.start
  let decorations ← moreDecorators g decorations
  let abstract ← nextToken fun token => !token.newline && token.kind = .word "class"
  let named ← nextToken fun token => !token.newline && isIdentifier token
  let inner ←
    if (← atWord "function") || (← atAsyncFunction) then functionDeclaration g .listed false here
    else if ← atWord "class" then classRest g here decorations
    else if (← typed) && (← atWord "abstract") && abstract then do
      advance
      classRest g here decorations
    else if (← typed) && (← atWord "interface") && named then interface g here
    else do
      let value ← g.innerAssignment
      semicolon
      pure value
  checkDecorated decorations inner
  return .construct (← spanFrom start) .exportingDefault [inner]

def exportDeclared (g : Grammar) (start : Nat) (decorations : List Node) : Parse Node := do
  let here ← Parse.start
  let decorations ← moreDecorators g decorations
  let inner ←
    if ← typed then declaration g here decorations
    else do
      unless (← atAnyWord ["var", "let", "const", "function", "class"]) || (← atAsyncFunction) do unexpected
      declarationRest g here decorations []
  return .construct (← spanFrom start) .exporting [inner]

def exportAssignment (g : Grammar) (start : Nat) : Parse Node := do
  if !(← typed) then unexpected
  advance
  let value ← g.expression
  semicolon
  return .construct (← spanFrom start) .exportAssignment [value]

def exportNamespace (start : Nat) : Parse Node := do
  if !(← typed) then unexpected
  advance
  expectWord "namespace"
  let name ← bindingName
  semicolon
  return .construct (← spanFrom start) .exportNamespace [name]

def exportPlain (g : Grammar) (start : Nat) : Parse (Option Node) := do
  let next := (← get).next.token.kind
  match ← kind with
  | .mark .star => some <$> exportAll start
  | .mark .braceOpen => some <$> exportList start false
  | .mark .assign => some <$> exportAssignment g start
  | .word "as" => some <$> exportNamespace start
  | .word "type" =>
    if !(← typed) || !([TokenKind.mark .star, .mark .braceOpen].contains next) then return none
    advance
    if ← atMark .star then some <$> exportAll start else some <$> exportList start true
  | _ => return none

def exportRest (g : Grammar) (start : Nat) (decorations : List Node) : Parse Node := do
  modify ({ · with modular := true })
  if ← atWord "default" then return ← exportDefault g start decorations
  match ← exportPlain g start with
  | some found =>
    checkDecorated decorations found
    return found
  | none => exportDeclared g start decorations

/-- Names are exported once. Where there are types, declarations of one name may be joined, so that
this is not looked at. -/
def noteExports (found : Node) : Parse Unit := do
  unless ← typed do
    found.exportedNames.forM fun name => do
      if (← get).exported.contains name then record .repeatedName
      modify fun state => { state with exported := name :: state.exported }

def exportDeclaration (g : Grammar) (start : Nat) (decorations : List Node) : Parse Node := do
  expectWord "export"
  let found ← exportRest g start decorations
  noteExports found
  return found

end Syntax.Parse
end ScriptLint
