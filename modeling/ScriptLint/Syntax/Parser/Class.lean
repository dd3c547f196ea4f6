import ScriptLint.Syntax.Parser.Function

/-! Classes. -/

namespace ScriptLint.Syntax.Parse

def staticBlock (g : Grammar) : Parse Node := do
  let start ← start
  advance
  expect .braceOpen
  let body ← inScope (fun scope => { scope with
    inOperator := true, yields := false, awaits := true, returns := false, decorating := false }) (statements g)
  expect .braceClose
  return .construct (← spanFrom start) .staticBlock body

inductive Role where
  | field | method | special
  deriving DecidableEq

def fixedName : Parse (Option String) := do
  match ← kind with
  | .word name | .string name => return some name
  | .privateName name => return some ("#" ++ name)
  | _ => return none

/-- The constructor is a plain method, and the prototype of a class is no member of it. -/
def checkMemberName (name : Option String) (static : Bool) (role : Role) : Parse Unit := do
  if name = some "#constructor" || (static && name = some "prototype") then record .reservedName
  else if name = some "constructor" && (role = .field || (role = .special && !static)) then
    record .reservedName

def checkPrivate (found : List String) : Parse Unit := do
  match ← kind with
  | .privateName _ => if (← typed) && found.any accessibility.contains then record .misplaced
  | _ => pure ()

/-- What stands in front of the name of a member of a class. -/
structure Lead where
  start : Nat
  decorations : List Node
  modifiers : List String

def Lead.static (lead : Lead) : Bool := lead.modifiers.contains "static"

def accessor (g : Grammar) (lead : Lead) (check : List Node → Parse Unit) : Parse Node := do
  checkPrivate lead.modifiers
  checkMemberName (← fixedName) lead.static .special
  allow (accessibility ++ ["abstract", "override", "static"]) lead.modifiers
  let name ← memberName g
  let head ← functionHead g {}
  check head
  let body ← bodyOrEnd g {}
  return .construct (← spanFrom lead.start) .accessor (lead.decorations ++ name :: (head ++ body))

def checkConstructor (lead : Lead) (head : List Node) : Parse Unit := do
  let odd := head.any fun
    | .construct _ .typeParameters _ | .construct _ .thisParameter _ => true
    | _ => false
  if odd || !lead.decorations.isEmpty then record .misplaced

def classMethod (g : Grammar) (lead : Lead) (generator : Bool) (fixed : Option String) (name : Node) :
    Parse Node := do
  let asynchronous := lead.modifiers.contains "async"
  let special := generator || asynchronous
  checkMemberName fixed lead.static (if special then .special else .method)
  let constructs := fixed = some "constructor" && !lead.static && !special
  allow (if constructs then accessibility else accessibility ++ ["abstract", "async", "override", "static"])
    lead.modifiers
  let manner : Manner := { asynchronous, generator, constructs }
  let head ← functionHead g manner
  if constructs then checkConstructor lead head
  let body ← bodyOrEnd g manner
  return .construct (← spanFrom lead.start) .method (lead.decorations ++ name :: (head ++ body))

def classField (g : Grammar) (lead : Lead) (optional : Bool) (fixed : Option String) (name : Node) :
    Parse Node := do
  checkMemberName fixed lead.static .field
  let accessible := lead.modifiers.contains "accessor"
  allow (accessibility ++ ["abstract", "override", "static"] ++
    if accessible then ["accessor"] else ["declare", "readonly"]) lead.modifiers
  let definite ← eat .bang
  if optional && (definite || accessible) then record .misplaced
  let type ← ascription g
  let value ← inScope ({ · with yields := false, awaits := false }) (initializer g)
  semicolon
  return .construct (← spanFrom lead.start) .field (lead.decorations ++ name :: (type ++ value))

def leadMember (g : Grammar) (lead : Lead) : Parse Node := do
  if (← atWord "static") && (← nextToken fun token => token.kind = .mark .braceOpen) then
    unless lead.decorations.isEmpty && lead.modifiers.isEmpty do record .misplaced
    return ← staticBlock g
  if ← contextual "get" then return ← accessor g lead checkGetter
  if ← contextual "set" then return ← accessor g lead checkSetter
  if (← typed) && (← atIndexSignature) then
    unless lead.decorations.isEmpty do record .misplaced
    allow ["readonly", "static"] lead.modifiers
    return ← indexSignature g
  let generator ← eat .star
  checkPrivate lead.modifiers
  let fixed ← fixedName
  let name ← memberName g
  let optional ← eat .question
  if generator || (← atMark .parenOpen) || (← atMark .less) then classMethod g lead generator fixed name
  else classField g lead optional fixed name

def classMember (g : Grammar) : Parse (List Node) := do
  let start ← start
  if ← eat .semicolon then return []
  let decorations ← decorators g
  let found ← modifiers true
  return [← leadMember g ⟨start, decorations, found⟩]

def classBody (g : Grammar) : Parse Node := do
  let start ← start
  expect .braceOpen
  let members ← manyUntil (return (← atMark .braceClose) || (← atEnd)) (classMember g)
  expect .braceClose
  return .construct (← spanFrom start) .classBody members.flatten

def heritageItem (g : Grammar) : Parse Node := do
  let start ← start
  let base ← g.operand
  let arguments ← typeArgumentsHere g
  return .construct (← spanFrom start) .heritage (base :: arguments)

def commaSeparated {A : Type} (item : Parse A) : Parse (List A) := do
  let first ← item
  iterate (fun (found : List A) => do
    if ← eat .comma then return .inl ((← item) :: found)
    return .inr found.reverse) [first]

def heritage (g : Grammar) : Parse (List Node) := do
  let (found, _, _) ← iterate (fun ((found, extending, implementing) : List Node × Bool × Bool) => do
    if ← eatWord "extends" then
      if extending || implementing then record .misplaced
      return .inl (found ++ (← commaSeparated (heritageItem g)), true, implementing)
    if ← eatWord "implements" then
      if implementing then record .misplaced
      return .inl (found ++ (← commaSeparated (typeReference g)), extending, true)
    return .inr (found, extending, implementing)) ([], false, false)
  return found

def classRest (g : Grammar) (start : Nat) (decorations : List Node) : Parse Node := do
  expectWord "class"
  let implementing ← nextToken isWord
  let name ←
    if (← atIdentifier) && !((← atWord "implements") && implementing) then pure [← bindingName]
    else pure []
  let types ← typeParameters g
  let bases ← heritage g
  let body ← inScope ({ · with decorating := false }) (classBody g)
  return .construct (← spanFrom start) .classDefinition (decorations ++ name ++ types ++ bases ++ [body])

end ScriptLint.Syntax.Parse
