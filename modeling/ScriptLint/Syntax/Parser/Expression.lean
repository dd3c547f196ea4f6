import ScriptLint.Syntax.Parser.Arrow
import ScriptLint.Syntax.Parser.Operand
import ScriptLint.Syntax.Parser.Target

/-! Expressions: operators, assignments, conditionals and sequences. -/

namespace ScriptLint.Syntax.Parse

def beforeOperand : Parse Bool := nextToken fun token => !token.newline &&
  match token.kind with
  | .word name => name != "in" && name != "instanceof"
  | .number _ | .bigint _ | .string _ => true
  | _ => false

def atAwait : Parse Bool := do
  if !(← atWord "await") then return false
  if (← read).awaits then return true
  -- elsewhere only where nothing else would make sense
  beforeOperand

def awaiting (g : Grammar) : Parse Node := do
  let start ← start
  advance
  if !(← read).awaits then record .strayAwait
  let argument ← inScope ({ · with awaits := true }) g.unary
  return .construct (← spanFrom start) .awaiting [argument]

def atYield : Parse Bool := do
  if !(← atWord "yield") then return false
  if (← read).yields then return true
  beforeOperand

def yielding (g : Grammar) : Parse Node := do
  let start ← start
  advance
  if !(← read).yields then record .strayYield
  if ← onNewLine then return .construct (← spanFrom start) .yielding []
  let delegates ← eat .star
  let ends ← do
    if ← atAnyMark [.semicolon, .braceClose, .parenClose, .bracketClose, .colon, .comma] then pure true
    else if ← atEnd then pure true
    else atWord "in"
  if ends && !delegates then return .construct (← spanFrom start) .yielding []
  let argument ← inScope ({ · with yields := true }) (g.assignment true)
  return .construct (← spanFrom start) .yielding [argument]

def castType (g : Grammar) : Parse Node := inScope ({ · with conditionalTypes := true }) g.type

def assertion (g : Grammar) : Parse Node := do
  let start ← start
  expect .less
  let type ← castType g
  expect .greater
  let argument ← g.unary
  return .construct (← spanFrom start) .assertion [type, argument]

def strayElement (g : Grammar) : Parse Node := do
  -- it has to be well formed all the same
  let _ ← elementExpression g
  throw .elementNotAllowed

def update (g : Grammar) : Parse Node := do
  let start ← start
  if isUpdate (← kind) then
    advance
    let argument ← g.unary
    let target ← simpleTarget argument
    return .construct (← spanFrom start) .update [target]
  if (← atMark .less) && (← elements) then return ← elementExpression g
  let argument ← g.operand
  if isUpdate (← kind) && !(← onNewLine) then
    let target ← simpleTarget argument
    advance
    return .construct (← spanFrom start) .update [target]
  return argument

def unary (g : Grammar) : Parse Node := do
  let start ← start
  if isUnary (← kind) then
    advance
    let argument ← g.unary
    return .construct (← spanFrom start) .unary [argument]
  if (← atMark .less) && !(← elements) then
    if ← typed then return ← assertion g else return ← strayElement g
  if ← atAwait then return ← awaiting g
  update g

/-- Whether an operation may have an operand. The operator `??` does not join another logical operation,
unless a parenthesis comes first in it, and `**` comes behind no operator in front of its operand. -/
def checkOperands (operator : TokenKind) (left right : Node) (leftOpen rightOpen : Bool) : Parse Unit := do
  let logical : Node → Bool := fun
    | .construct _ .logical _ => true
    | _ => false
  if operator = .mark .coalesce && (logical left && !leftOpen || logical right && !rightOpen) then
    throw .mixedCoalesce
  match left with
  | .construct _ .unary _ | .construct _ .awaiting _ => if operator = .mark .power then throw .unaryPower
  | _ => pure ()

def operationKind : TokenKind → Construct
  | .mark .coalesce => .coalescing
  | .mark .andAlso | .mark .orElse => .logical
  | _ => .binary

def nextOperation (g : Grammar) (start strength : Nat) (leftOpen : Bool) (left : Node) :
    Parse (Option Node) := do
  joinGreater
  let operator ← kind
  let scope ← read
  match strength? scope.dialect.typed scope.inOperator operator with
  | none => return none
  | some found =>
    if found < strength || (found = strength && operator != .mark .power) then return none
    if operator = .word "as" || operator = .word "satisfies" then
      if ← onNewLine then return none
      advance
      let type ← castType g
      let kind : Construct := if operator = .word "as" then .casting else .satisfying
      return some (.construct (← spanFrom start) kind [left, type])
    advance
    let rightOpen ← atMark .parenOpen
    let right ← g.binary found
    checkOperands operator left right leftOpen rightOpen
    return some (.construct (← spanFrom start) (operationKind operator) [left, right])

/-- A private name that is looked for in an operand. Nothing that binds as tight as a comparison stands in
front of it, so that the operand is no such question itself. -/
def privateIn (g : Grammar) (strength : Nat) : Parse Node := do
  let start ← start
  if !(← read).inOperator || comparing ≤ strength then unexpected
  advance
  expectWord "in"
  let owner ← g.binary comparing
  return .construct (← spanFrom start) .privateIn [owner]

def binary (g : Grammar) (strength : Nat) : Parse Node := do
  let start ← start
  let leftOpen ← atMark .parenOpen
  let first ← match ← kind with
    | .privateName _ => privateIn g strength
    | _ => g.unary
  iterate (fun left => do
    match ← nextOperation g start strength leftOpen left with
    | some joined => return .inl joined
    | none => return .inr left) first

/-- The two branches of a conditional, if a question mark follows. In the first one an arrow function
with a type for its result has to be followed by the colon. -/
def conditionalRest (g : Grammar) (start : Nat) (test : Node) (ascribable : Bool) : Parse Node := do
  if !(← eat .question) then return test
  let yes ← withIn (g.assignment false)
  expect .colon
  let no ← g.assignment ascribable
  return .construct (← spanFrom start) .conditional [test, yes, no]

def assignmentRest (g : Grammar) (start : Nat) (left : Node) (ascribable : Bool) : Parse Node := do
  let plain ← atMark .assign
  let target ← target left
  advance
  let value ← g.assignment ascribable
  let kind : Construct := if plain then .assignment else .compoundAssignment
  return .construct (← spanFrom start) kind [target, value]

def atAssignment : Parse Bool := do
  match ← kind with
  | .mark mark => return mark.isAssignment
  | _ => return false

def plainAssignment (g : Grammar) (ascribable : Bool) : Parse Node := do
  let start ← start
  let left ← g.binary 0
  match left with
  | .identifier span _ =>
    if ← atMark .arrow then
      return ← arrowRest g start ⟨false, [.construct span .parameter [left]], false⟩ ascribable
  | _ => pure ()
  if ← atAssignment then assignmentRest g start left ascribable
  else conditionalRest g start left ascribable

def assignment (g : Grammar) (ascribable : Bool) : Parse Node := do
  if ← atYield then return ← yielding g
  if let some arrow ← parenthesizedArrow g ascribable then return arrow
  if let some arrow ← asyncArrow g ascribable then return arrow
  plainAssignment g ascribable

def expression (g : Grammar) : Parse Node := do
  let start ← start
  let first ← g.assignment true
  if !(← atMark .comma) then return first
  let parts ← iterate (fun (found : List Node) => do
    if ← eat .comma then return .inl ((← g.assignment true) :: found)
    return .inr found.reverse) [first]
  return .construct (← spanFrom start) .sequence parts

end ScriptLint.Syntax.Parse
