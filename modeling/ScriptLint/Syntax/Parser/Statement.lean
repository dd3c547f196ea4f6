import ScriptLint.Syntax.Parser.Expression
import ScriptLint.Syntax.Parser.Module

/-! Statements. -/

namespace ScriptLint.Syntax.Parse

def condition (g : Grammar) : Parse Node := do
  expect .parenOpen
  let found ← g.inner
  expect .parenClose
  return found

def block (g : Grammar) : Parse Node := do
  let start ← start
  expect .braceOpen
  let body ← statements g
  expect .braceClose
  return .construct (← spanFrom start) .block body

def ifElse (g : Grammar) : Parse Node := do
  let start ← start
  advance
  let test ← condition g
  let yes ← g.statement .body
  let no ← if ← eatWord "else" then pure [← g.statement .body] else pure []
  return .construct (← spanFrom start) .ifElse (test :: yes :: no)

def whileLoop (g : Grammar) : Parse Node := do
  let start ← start
  advance
  let test ← condition g
  let body ← g.statement .body
  return .construct (← spanFrom start) .whileLoop [test, body]

def doWhile (g : Grammar) : Parse Node := do
  let start ← start
  advance
  let body ← g.statement .body
  expectWord "while"
  let test ← condition g
  -- this semicolon may be left out, also within a line
  let _ ← eat .semicolon
  return .construct (← spanFrom start) .doWhile [body, test]

def forRest (g : Grammar) (start : Nat) (waits : Bool) (first : List Node) : Parse Node := do
  expect .semicolon
  let test ← if (← atMark .semicolon) || (← atMark .parenClose) then pure [] else pure [← g.inner]
  expect .semicolon
  let step ← if ← atMark .parenClose then pure [] else pure [← g.inner]
  expect .parenClose
  if waits then record .misplaced
  let body ← g.statement .body
  return .construct (← spanFrom start) .forLoop (first ++ test ++ step ++ [body])

def forEach (g : Grammar) (start : Nat) (waits : Bool) (target : Node) : Parse Node := do
  let keys ← atWord "in"
  advance
  if keys && waits then record .misplaced
  let source ← if keys then g.inner else g.innerAssignment
  expect .parenClose
  let body ← g.statement .body
  return .construct (← spanFrom start) (if keys then .forIn else .forOf) [target, source, body]

def atInOrOf : Parse Bool := atAnyWord ["in", "of"]

def atLoopLet : Parse Bool := do
  if !(← atWord "let") then return false
  nextToken fun token => isWord token && token.kind != .word "in" ||
    token.kind = .mark .braceOpen || token.kind = .mark .bracketOpen

def forDeclared (g : Grammar) (start : Nat) (waits : Bool) : Parse Node := do
  let here ← Parse.start
  let constant ← atWord "const"
  advance
  let found ← withoutIn (declaredList g)
  let declaration := Node.construct (← spanFrom here) .bindings (found.map Declared.node)
  if ← atInOrOf then forEach g start waits declaration
  else
    if ← atMark .semicolon then found.forM (checkValue constant)
    forRest g start waits [declaration]

/-- A loop whose head starts with an expression, which may turn out to be the target of the loop. The
target of a loop over items does not start with `let`. -/
def forExpression (g : Grammar) (start : Nat) (waits : Bool) : Parse Node := do
  let startsLet ← atWord "let"
  let beforeOf ← nextToken fun token => token.kind = .word "of"
  let onlyAsync := (← atWord "async") && beforeOf && !(← token).escaped
  let first ← withoutIn g.expression
  if ← atInOrOf then
    if (← atWord "of") && (startsLet || (onlyAsync && !waits)) then unexpected
    let target ← target first
    forEach g start waits target
  else forRest g start waits [first]

def forLoop (g : Grammar) : Parse Node := do
  let start ← start
  advance
  let waits ← atWord "await"
  if waits then
    if !(← read).awaits then record .strayAwait
    advance
  expect .parenOpen
  if (← atMark .semicolon) || (← atMark .parenClose) then forRest g start waits []
  else if (← atWord "var") || (← atWord "const") || (← atLoopLet) then forDeclared g start waits
  else forExpression g start waits

def jump (kind : Construct) : Parse Node := do
  let start ← start
  advance
  let label ← if ← canEndStatement then pure [] else pure [← reference]
  semicolon
  return .construct (← spanFrom start) kind label

def withScope (g : Grammar) : Parse Node := do
  let start ← start
  advance
  let scope ← condition g
  let body ← g.statement .body
  return .construct (← spanFrom start) .withScope [scope, body]

def switchCase (g : Grammar) : Parse Node := do
  let start ← start
  let test ← if ← eatWord "default" then pure [] else do
    expectWord "case"
    pure [← g.inner]
  expect .colon
  let body ← manyUntil (do
    return (← atAnyWord ["case", "default"]) || (← atMark .braceClose) || (← atEnd)) (g.statement .listed)
  return .construct (← spanFrom start) .switchCase (test ++ body)

def switch (g : Grammar) : Parse Node := do
  let start ← start
  advance
  let subject ← condition g
  expect .braceOpen
  let cases ← manyUntil (return (← atMark .braceClose) || (← atEnd)) (switchCase g)
  expect .braceClose
  return .construct (← spanFrom start) .switch (subject :: cases)

def throwing (g : Grammar) : Parse Node := do
  let start ← start
  advance
  if ← onNewLine then record .lineBreak
  let value ← g.inner
  semicolon
  return .construct (← spanFrom start) .throwing [value]

def catching (g : Grammar) : Parse Node := do
  let start ← start
  advance
  let bound ←
    if ← eat .parenOpen then do
      let bound ← g.binding
      let type ← ascription g
      expect .parenClose
      pure (bound :: type)
    else pure []
  let body ← block g
  return .construct (← spanFrom start) .catching (bound ++ [body])

def trying (g : Grammar) : Parse Node := do
  let start ← start
  advance
  let body ← block g
  let handler ← if ← atWord "catch" then pure [← catching g] else pure []
  let finalizer ← if ← eatWord "finally" then pure [← block g] else pure []
  if handler.isEmpty && finalizer.isEmpty then record .noCatch
  return .construct (← spanFrom start) .trying (body :: (handler ++ finalizer))

def debuggerStatement : Parse Node := do
  let start ← start
  advance
  semicolon
  return .construct (← spanFrom start) .debugger []

def returned (g : Grammar) : Parse Node := do
  let start ← start
  advance
  let value ← if ← canEndStatement then pure [] else pure [← g.inner]
  semicolon
  if !(← read).returns then record .strayReturn
  return .construct (← spanFrom start) .returned value

def emptyStatement : Parse Node := do
  let start ← start
  advance
  return .construct (← spanFrom start) .empty []

def expressionStatement (g : Grammar) : Parse Node := do
  let start ← start
  let found ← g.expression
  match found with
  | .identifier _ _ =>
    if ← eat .colon then
      let body ← g.statement .body
      return .construct (← spanFrom start) .labeled [body]
  | _ => pure ()
  semicolon
  return .expressionStatement (← spanFrom start) found

/-- A statement that starts with `let`. The word is the name of a variable where the next token can follow
one and not start a binding, and where no declaration may stand. -/
def letStatement (g : Grammar) (place : Place) : Parse Node := do
  let start ← start
  let next := (← get).next.token
  if next.kind = .mark .dot || next.kind = .mark .parenOpen then
    let found ← g.expression
    return .expressionStatement (← spanFrom start) found
  let joined := joinsValues next
  let alone := next.kind = .mark .semicolon || (place = .body && next.kind != .mark .bracketOpen)
  if !joined && !alone then return ← variableDeclaration g place start
  let found ← if joined then g.assignment true else reference
  semicolon
  return .expressionStatement (← spanFrom start) found

def decorated (g : Grammar) (place : Place) : Parse Node := do
  let start ← start
  let decorations ← decorators g
  if ← atWord "export" then return ← exportDeclaration g start decorations
  if place = .body then record .misplaced
  if ← typed then declaration g start decorations
  else if ← atWord "class" then classRest g start decorations
  else unexpected

def typedDeclaration (g : Grammar) : Parse (Option Node) := do
  if !(← typed) then return none
  unless ← atAnyWord ["interface", "type", "module", "namespace", "declare", "enum", "abstract", "global",
    "private", "protected", "public", "accessor", "static", "readonly"] do return none
  unless ← atDeclaration do return none
  some <$> inScope ({ · with awaits := false }) (declaration g (← start) [])

def wordStatement (g : Grammar) (place : Place) (name : String) : Parse Node := do
  match name with
  | "if" => ifElse g
  | "do" => doWhile g
  | "while" => whileLoop g
  | "for" => forLoop g
  | "continue" => jump .continueTo
  | "break" => jump .breakTo
  | "with" => withScope g
  | "switch" => switch g
  | "throw" => throwing g
  | "try" => trying g
  | "debugger" => debuggerStatement
  | "return" => returned g
  | "var" => variableDeclaration g place (← start)
  | "const" =>
    if (← typed) && (← nextToken fun token => token.kind = .word "enum") then enumeration g (← start)
    else variableDeclaration g place (← start)
  | "function" => functionDeclaration g place true (← start)
  | "class" =>
    if place = .body then record .misplaced
    classRest g (← start) []
  | "export" => exportDeclaration g (← start) []
  | "import" =>
    if ← nextToken fun token => token.kind = .mark .parenOpen || token.kind = .mark .dot then
      expressionStatement g
    else importDeclaration (← start)
  | _ =>
    if name = "let" && !(← token).escaped then return ← letStatement g place
    if ← atAsyncFunction then return ← functionDeclaration g place true (← start)
    if let some found ← typedDeclaration g then return found
    expressionStatement g

def statement (g : Grammar) (place : Place) : Parse Node := do
  match ← kind with
  | .mark .braceOpen => block g
  | .mark .semicolon => emptyStatement
  | .mark .atSign => decorated g place
  | .word name => wordStatement g place name
  | _ => expressionStatement g

end ScriptLint.Syntax.Parse
