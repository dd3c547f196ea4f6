import ScriptLint.Syntax.Parser.Collection

/-! Arrow functions. Whether a parenthesis starts the parameters of one is decided by the tokens that
follow; where these leave it open, the parameters are tried. -/

namespace ScriptLint.Syntax.Parse

inductive Verdict where
  | yes | no | maybe
  deriving DecidableEq

def isParameterModifier (token : Token) : Bool :=
  match token.kind with
  | .word name => modifierWords.contains name
  | _ => false

def judgeSpread : Parse Verdict := do
  match ← kind with
  | .word name =>
    if ["false", "null", "true"].contains name then return .no
    -- words that are keywords somewhere leave it open
    return if isKeyword name then .maybe else .yes
  | .number _ | .bigint _ | .string _ => return .no
  | _ => return .maybe

def judgeParenthesis : Parse Verdict := do
  advance
  let second ← token
  match second.kind with
  | .mark .parenClose =>
    advance
    if (← atMark .colon) && !(← typed) then return .no
    if ← atAnyMark [.arrow, .colon, .braceOpen] then return .yes
    return .no
  | .mark .bracketOpen | .mark .braceOpen => return .maybe
  | .mark .ellipsis =>
    advance
    judgeSpread
  | _ =>
    if isParameterModifier second && second.kind != .word "async" && (← nextToken isIdentifier) then
      if ← lookahead false (do advance; nextToken fun token => token.kind = .word "as") then return .no
      return .yes
    if !isIdentifier second && second.kind != .word "this" then return .no
    advance
    match ← kind with
    | .mark .colon => return .yes
    | .mark .question =>
      advance
      if ← atAnyMark [.colon, .comma, .assign, .parenClose] then return .yes
      return .no
    | .mark .comma | .mark .assign | .mark .parenClose => return .maybe
    | _ => return .no

/-- What follows a `<` tells about it. Where there are elements, only a bound or a comma shows that it
does not start one. -/
def judgeAngle : Parse Verdict := do
  advance
  unless (← atIdentifier) || (← atWord "const") do return .no
  if ← elements then
    let _ ← eatWord "const"
    advance
    match ← kind with
    | .word "extends" =>
      advance
      if ← atAnyMark [.assign, .greater, .slash] then return .no
      return if ← atIdentifier then .maybe else .yes
    | .mark .comma | .mark .assign => return .yes
    | _ => return .no
  return .maybe

def judgeArrow : Parse Verdict := lookahead .no do
  if ← atWord "async" then
    advance
    if ← onNewLine then return .no
    unless (← atMark .parenOpen) || (← atMark .less) do return .no
  if ← atMark .parenOpen then return ← judgeParenthesis
  if (← atMark .less) && (← typed) then return ← judgeAngle
  return .no

structure ArrowHead where
  asynchronous : Bool
  parts : List Node
  ascribed : Bool

def insideArrow (asynchronous : Bool) (scope : Scope) : Scope :=
  { scope with inOperator := true, awaits := scope.awaits || asynchronous, decorating := false,
               conditionalTypes := true }

def arrowHead (g : Grammar) : Parse ArrowHead := do
  let asynchronous ← eatWord "async"
  let (parts, ascribed) ← inScope (insideArrow asynchronous) do
    let types ← typeParameters g
    let found ← parameters g false
    if found.any isThisParameter then record .misplaced
    let result ← resultAscription g
    pure (types ++ found ++ result, !result.isEmpty)
  unless ← atMark .arrow do unexpected
  return ⟨asynchronous, parts, ascribed⟩

def arrowBody (g : Grammar) (asynchronous ascribable : Bool) : Parse Node := do
  if ← onNewLine then record .lineBreak
  expect .arrow
  if ← atMark .braceOpen then functionBody g { asynchronous }
  else
    inScope (fun scope => { scope with yields := false, awaits := asynchronous })
      (g.assignment ascribable)

def arrowRest (g : Grammar) (start : Nat) (head : ArrowHead) (ascribable : Bool) : Parse Node := do
  let body ← arrowBody g head.asynchronous ascribable
  return .construct (← spanFrom start) .arrow (head.parts ++ [body])

/-- Tries an arrow function with parentheses. If its result has a type where that is not allowed, a colon
has to follow, as in the first branch of a conditional. -/
def tryArrow (g : Grammar) (ascribable : Bool) : Parse (Option Node) := do
  let here ← start
  if (← get).notArrow.contains here then return none
  let saved ← get
  let refuse : Parse (Option Node) := do
    set { saved with notArrow := here :: (← get).notArrow }
    return none
  match ← attempt (arrowHead g) with
  | none => refuse
  | some head =>
    let found ← arrowRest g here head ascribable
    if !ascribable && head.ascribed && !(← atMark .colon) then refuse
    else return some found

def parenthesizedArrow (g : Grammar) (ascribable : Bool) : Parse (Option Node) := do
  match ← judgeArrow with
  | .no => return none
  | .maybe => tryArrow g ascribable
  | .yes =>
    -- what is sure to be an arrow function may have a type for its result anywhere
    let here ← start
    let head ← arrowHead g
    return some (← arrowRest g here head true)

def asyncArrow (g : Grammar) (ascribable : Bool) : Parse (Option Node) := do
  if !(← atWord "async") then return none
  let found ← lookahead false do
    advance
    if (← onNewLine) || !(← atIdentifier) then return false
    nextToken fun token => !token.newline && token.kind = .mark .arrow
  if !found then return none
  let here ← start
  advance
  let parameterStart ← start
  let name ← inScope ({ · with awaits := true }) bindingName
  let parameter := Node.construct (← spanFrom parameterStart) .parameter [name]
  return some (← arrowRest g here ⟨true, [parameter], false⟩ ascribable)

end ScriptLint.Syntax.Parse
