import ScriptLint.Syntax.Parser.Type

/-! Functions: their heads and bodies. -/

namespace ScriptLint.Syntax

structure Manner where
  asynchronous : Bool := false
  generator : Bool := false
  constructs : Bool := false

namespace Parse

def isDirective : Node → Bool
  | .expressionStatement span (.literal inner (.string _)) => span.start = inner.start
  | _ => false

def asDirective (node : Node) : Node := .construct node.span .directive []

def statements (g : Grammar) : Parse (List Node) :=
  manyUntil (return (← atMark .braceClose) || (← atEnd)) (g.statement .listed)

def functionBody (g : Grammar) (manner : Manner) : Parse Node := do
  let start ← start
  expect .braceOpen
  let body ← inScope (fun scope => { scope with
    inOperator := true, yields := manner.generator, awaits := manner.asynchronous, returns := true,
    decorating := false, conditionalTypes := true }) (statements g)
  expect .braceClose
  return .construct (← spanFrom start) .functionBody
    ((body.takeWhile isDirective).map asDirective ++ body.dropWhile isDirective)

def functionHead (g : Grammar) (manner : Manner) : Parse (List Node) :=
  inScope (fun scope => { scope with
    inOperator := true, yields := manner.generator, awaits := manner.asynchronous, decorating := false,
    conditionalTypes := true }) (signature g manner.constructs)

def bodyOrEnd (g : Grammar) (manner : Manner) : Parse (List Node) := do
  if ← atMark .braceOpen then return [← functionBody g manner]
  if ← typed then
    semicolon
    return []
  fail (.expected "\x7b" (← kind).text)

def isParameter : Node → Bool
  | .construct _ .parameter _ => true
  | _ => false

def isDefaulted : Node → Bool
  | .construct _ .parameter parts =>
    let told := parts.filter fun
      | .construct _ .decorator _ | .construct _ .ascription _ => false
      | _ => true
    1 < told.length
  | _ => false

/-- A getter has no parameters, where one for all the rest does not count. -/
def checkGetter (head : List Node) : Parse Unit := do
  if head.any isParameter then record .misplaced

def checkSetter (head : List Node) : Parse Unit := do
  let one := (head.filter isParameter).length = 1 && !head.any isRest
  if !one || ((← typed) && head.any isDefaulted) then record .misplaced

def functionRest (g : Grammar) (start : Nat) (asynchronous declared named : Bool) : Parse Node := do
  let manner : Manner := { asynchronous, generator := ← eat .star }
  let name ←
    if ← atIdentifier then do
      let inside : Scope → Scope := fun scope =>
        if declared then scope else { scope with yields := manner.generator, awaits := asynchronous }
      pure [← inScope inside bindingName]
    else if named then unexpected
    else pure []
  let head ← functionHead g manner
  let body ← bodyOrEnd g manner
  return .construct (← spanFrom start) .function (name ++ head ++ body)

def isBody : Node → Bool
  | .construct _ .functionBody _ => true
  | _ => false

def hasBody : Node → Bool
  | .construct _ .function parts => parts.any isBody
  | _ => false

def atAsyncFunction : Parse Bool := do
  if !(← atWord "async") then return false
  nextToken fun token => !token.newline && token.kind = .word "function"

def functionExpression (g : Grammar) : Parse Node := do
  let start ← start
  let asynchronous ← eatWord "async"
  expectWord "function"
  functionRest g start asynchronous false false

def functionDeclaration (g : Grammar) (place : Place) (named : Bool) (start : Nat) : Parse Node := do
  let asynchronous ← eatWord "async"
  expectWord "function"
  let generator ← atMark .star
  if place = .body && (asynchronous || generator) then record .misplaced
  functionRest g start asynchronous true named

end Parse
end ScriptLint.Syntax
