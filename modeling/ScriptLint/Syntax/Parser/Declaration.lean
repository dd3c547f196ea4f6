import ScriptLint.Syntax.Parser.Class
import ScriptLint.Syntax.Parser.Variable

/-! Declarations that only dialects with types have. -/

namespace ScriptLint

namespace Node

def isEntityName : Node → Bool
  | .identifier _ _ => true
  | .member _ owner _ optional => !optional && owner.isEntityName
  | _ => false

def extendsName : Node → Bool
  | .construct _ .heritage (.construct _ .instantiation (name :: _) :: _) => name.isEntityName
  | .construct _ .heritage (name :: _) => name.isEntityName
  | _ => false

end Node

namespace Syntax.Parse

/-- A declaration with types starts here, with all of its modifiers on one line. -/
def atDeclaration : Parse Bool := lookahead false <| iterate (fun (_ : Unit) => do
  match ← kind with
  | .word name =>
    if ["var", "let", "const", "function", "class", "enum"].contains name then return .inr true
    if ["interface", "type"].contains name then
      return .inr (← nextToken fun token => !token.newline && isIdentifier token)
    if ["module", "namespace"].contains name then
      return .inr (← nextToken fun token => !token.newline && (isIdentifier token ||
        match token.kind with
        | .string _ => true
        | _ => false))
    if ["abstract", "accessor", "async", "declare", "private", "protected", "public", "readonly"].contains name then
      advanceName
      if ← onNewLine then return .inr false
      if name = "declare" && (← atWord "type") then return .inr true
      return .inl ()
    if name = "global" then
      return .inr (← nextToken fun token =>
        token.kind = .mark .braceOpen || isIdentifier token || token.kind = .word "export")
    if name = "static" then
      advanceName
      return .inl ()
    if name = "import" then
      return .inr (← nextToken fun token => isWord token || token.kind = .mark .braceOpen)
    return .inr false
  | _ => return .inr false) ()

def typeAlias (g : Grammar) (start : Nat) : Parse Node := do
  advance
  let name ← bindingName
  let types ← typeParameters g
  expect .assign
  let type ← g.type
  semicolon
  return .construct (← spanFrom start) .typeAlias (name :: (types ++ [type]))

def interface (g : Grammar) (start : Nat) : Parse Node := do
  advance
  let name ← bindingName
  let types ← typeParameters g
  let bases ← if ← eatWord "extends" then commaSeparated (heritageItem g) else pure []
  unless bases.all Node.extendsName do record .misplaced
  let members ← typeMembers g
  return .construct (← spanFrom start) .interface (name :: (types ++ bases ++ members))

def enumName (g : Grammar) : Parse Node := do
  match ← kind with
  | .word _ | .string _ => propertyName g
  | .mark .bracketOpen =>
    advance
    let name ← match ← kind with
      | .string _ => stringNode
      | .template _ true => template g false
      | _ => unexpected
    expect .bracketClose
    return name
  | _ => unexpected

def enumMember (g : Grammar) : Parse Node := do
  let start ← start
  let name ← enumName g
  let value ← initializer g
  return .construct (← spanFrom start) .enumMember (name :: value)

def enumeration (g : Grammar) (start : Nat) : Parse Node := do
  let _ ← eatWord "const"
  expectWord "enum"
  let name ← bindingName
  let members ← bracketed .braceOpen .braceClose (enumMember g)
  return .construct (← spanFrom start) .enumeration (name :: members)

def moduleBody (g : Grammar) : Parse (List Node) := do
  expect .braceOpen
  let body ← statements g
  expect .braceClose
  return body

def module (g : Grammar) (start : Nat) : Parse Node := do
  let text ← atWord "module"
  advance
  if text && (← atString) then
    let name ← stringNode
    let body ← if ← atMark .braceOpen then moduleBody g else do
      semicolon
      pure []
    return .construct (← spanFrom start) .module (name :: body)
  unless ← atIdentifier do unexpected
  let name ← entityName
  let body ← moduleBody g
  return .construct (← spanFrom start) .module (name :: body)

def globalScope (g : Grammar) (start : Nat) : Parse Node := do
  advance
  let body ← moduleBody g
  return .construct (← spanFrom start) .global body

def importAliasRest (start : Nat) (name : Node) : Parse Node := do
  expect .assign
  let source ←
    if (← atWord "require") && (← nextToken fun token => token.kind = .mark .parenOpen) then do
      advance
      expect .parenOpen
      let source ← stringNode
      expect .parenClose
      pure source
    else do
      unless ← atIdentifier do unexpected
      entityName
  semicolon
  return .construct (← spanFrom start) .importAlias [name, source]

def declarationRest (g : Grammar) (start : Nat) (decorations : List Node) (found : List String) :
    Parse Node := do
  let constEnum ← nextToken fun token => token.kind = .word "enum"
  if found.contains "abstract" && !(← atWord "class") then unexpected
  unless decorations.isEmpty || (← atWord "class") do unexpected
  match ← kind with
  | .word "var" | .word "let" => variableDeclaration g .listed start
  | .word "const" => if constEnum then enumeration g start else variableDeclaration g .listed start
  | .word "function" | .word "async" =>
    let node ← functionDeclaration g .listed true start
    if found.contains "declare" && hasBody node then record .misplaced
    return node
  | .word "class" => classRest g start decorations
  | .word "enum" => enumeration g start
  | .word "interface" => interface g start
  | .word "type" => typeAlias g start
  | .word "module" | .word "namespace" => module g start
  | .word "global" => globalScope g start
  | .word "import" =>
    advance
    let _ ← eatWord "type"
    let name ← bindingName
    importAliasRest start name
  | _ => unexpected

def declarationModifiers : Parse (List String) :=
  iterate (fun (found : List String) => do
    match ← kind with
    | .word name =>
      if ["declare", "abstract"].contains name && (← atDeclaration) &&
          (← nextToken fun token => !token.newline && isWord token) then
        checkModifier found name
        advance
        return .inl (name :: found)
      return .inr found.reverse
    | _ => return .inr found.reverse) []

def declaration (g : Grammar) (start : Nat) (decorations : List Node) : Parse Node := do
  let found ← declarationModifiers
  let ambient := found.contains "declare"
  inScope (fun scope => { scope with ambient := scope.ambient || ambient })
    (declarationRest g start decorations found)

end Syntax.Parse
end ScriptLint
