import ScriptLint.Syntax.Parser.Element
import ScriptLint.Syntax.Parser.Operator
import ScriptLint.Regexp.Validity
import ScriptLint.Syntax.Lexer.Regexp

/-! Operands: primary expressions, and the accesses and calls behind them. -/

namespace ScriptLint.Syntax.Parse

def regexp : Parse Node := do
  let start ← start
  let state ← get
  match Lexer.regexp state.token.start with
  | .error issue => throw issue
  | .ok (pattern, flags, behind) =>
    unless Regexp.isValid pattern flags do throw .invalidRegexp
    let (token, ahead) := Lexer.token behind
    set { state with token, ahead, before := behind.offset }
    return .literal (← spanFrom start) (.regexp (String.ofList pattern) (String.ofList flags))

def parenthesized (g : Grammar) : Parse Node := do
  let start ← start
  expect .parenOpen
  let innerStart ← Parse.start
  let (found, comma) ← withIn (commaList .parenClose (g.assignment true))
  if comma || found.isEmpty then
    if ← atEnd then expect .parenClose
    unexpected
  let inner : Node := match found with
    | [one] => one
    | several => .construct ⟨innerStart, (several.getLast?.map (·.span.stop)).getD innerStart⟩ .sequence several
  expect .parenClose
  return .parenthesized (← spanFrom start) inner

def importOperand (g : Grammar) : Parse Node := do
  let start ← start
  advance
  if ← eat .dot then
    if ← eatWord "meta" then
      modify ({ · with modular := true })
      return .construct (← spanFrom start) .metaProperty []
    unless ← atAnyWord ["source", "defer"] do unexpected
    advance
  unless ← atMark .parenOpen do unexpected
  expect .parenOpen
  let source ← g.innerAssignment
  let options ← do
    let comma ← eat .comma
    if comma && !(← atMark .parenClose) then
      let options ← g.innerAssignment
      let _ ← eat .comma
      pure [options]
    else pure []
  expect .parenClose
  return .construct (← spanFrom start) .importCall (source :: options)

def superOperand : Parse Node := do
  let start ← start
  advance
  unless ← atAnyMark [.dot, .parenOpen, .bracketOpen] do fail .misplaced
  return .construct (← spanFrom start) .super []

def wordOperand (kind : Construct) : Parse Node := do
  let start ← start
  advance
  return .construct (← spanFrom start) kind []

def literalOperand (value : Literal) : Parse Node := do
  let start ← start
  advance
  return .literal (← spanFrom start) value

def decoratedClass (g : Grammar) : Parse Node := do
  let start ← start
  let decorations ← decorators g
  classRest g start decorations

structure Access where
  node : Node
  optional : Bool
  -- the type arguments that come last, and the operand before them
  applied : Option (Node × List Node) := none

def memberAccess (start : Nat) (owner : Node) (optional : Bool) : Parse Node := do
  match ← kind with
  | .privateName _ =>
    advance
    return .construct (← spanFrom start) .privateMember [owner]
  | _ =>
    let property ← anyName
    return .member (← spanFrom start) owner property optional

def indexAccess (g : Grammar) (start : Nat) (owner : Node) (optional : Bool) : Parse Node := do
  expect .bracketOpen
  let key ← g.inner
  expect .bracketClose
  return .index (← spanFrom start) owner key optional

def taggedTemplate (g : Grammar) (start : Nat) (access : Access) (types : List Node) : Parse Access := do
  if access.optional then record .misplaced
  let owner := match access.applied with
    | some (owner, _) => owner
    | none => access.node
  let types := match access.applied with
    | some (_, applied) => applied
    | none => types
  let text ← template g true
  return ⟨.construct (← spanFrom start) .taggedTemplate (owner :: (types ++ [text])), access.optional, none⟩

def operandTypeArguments (g : Grammar) : Parse (Option (List Node)) := do
  if (← typed) && (← atTypeArguments) then
    expressionTypeArguments g startsExpression (isOperator (← read).inOperator)
  else return none

def nextAccess (g : Grammar) (start : Nat) (chains : Bool) (access : Access) : Parse (Option Access) := do
  let more (node : Node) (optional : Bool) : Option Access := some ⟨node, access.optional || optional, none⟩
  match ← kind with
  | .mark .dot =>
    advance
    return more (← memberAccess start access.node false) false
  | .mark .questionDot =>
    if !chains then return none
    let next := (← get).next.token
    if next.kind = .mark .bracketOpen then
      advance
      return more (← indexAccess g start access.node true) true
    match next.kind with
    | .word _ | .privateName _ =>
      advance
      return more (← memberAccess start access.node true) true
    | _ => return none
  | .mark .bracketOpen =>
    if (← read).decorating then return none
    return more (← indexAccess g start access.node false) false
  | .mark .bang =>
    if (← typed) && !(← onNewLine) then
      advance
      return more (.construct (← spanFrom start) .nonNull [access.node]) false
    return none
  | .template _ _ => return some (← taggedTemplate g start access [])
  | _ =>
    match ← operandTypeArguments g with
    | some types =>
      let node := Node.construct (← spanFrom start) .instantiation (access.node :: types)
      return some ⟨node, access.optional, some (access.node, types)⟩
    | none => return none

def accesses (g : Grammar) (start : Nat) (chains : Bool) (first : Access) : Parse Access :=
  iterate (fun access => do
    match ← nextAccess g start chains access with
    | some access => return .inl access
    | none => return .inr access) first

def call (g : Grammar) (start : Nat) (access : Access) (optional : Bool) (types : List Node) :
    Parse Access := do
  let (callee, types) := match optional, access.applied with
    | false, some (owner, applied) => (owner, applied)
    | _, _ => (access.node, types)
  let found ← arguments g
  return ⟨.call (← spanFrom start) callee types found optional, access.optional || optional, none⟩

def calls (g : Grammar) (start : Nat) (first : Access) : Parse Access :=
  iterate (fun access => do
    let access ← accesses g start true access
    if ← eat .questionDot then
      let types ← operandTypeArguments g
      if ← atTemplate then
        return .inl (← taggedTemplate g start { access with optional := true } (types.getD []))
      if ← atMark .parenOpen then return .inl (← call g start access true (types.getD []))
      unexpected
    if ← atMark .parenOpen then return .inl (← call g start access false [])
    return .inr access) first

/-- An operand with an optional access in it is the inside of a chain. -/
def closeChain (span : Span) (access : Access) : Node :=
  let wrap (span : Span) (node : Node) : Node := match node with
    | .member _ _ _ _ | .index _ _ _ _ | .call _ _ _ _ _ | .construct _ .privateMember _
    | .construct _ .nonNull _ => .chain span node
    | other => other
  if !access.optional then access.node
  else match access.applied with
    | some (owner, types) => .construct span .instantiation (wrap owner.span owner :: types)
    | none => wrap span access.node

def constructing (g : Grammar) : Parse Node := do
  let start ← start
  advance
  if ← eat .dot then
    unless ← eatWord "target" do unexpected
    return .construct (← spanFrom start) .metaProperty []
  let calleeStart ← Parse.start
  let first ← g.primary
  let access ← accesses g calleeStart false ⟨first, false, none⟩
  if ← atMark .questionDot then fail .misplaced
  let (callee, types) := match access.applied with
    | some (owner, types) => (owner, types)
    | none => (access.node, [])
  let found ← if ← atMark .parenOpen then arguments g else pure []
  match callee with
  | .construct _ .importCall _ => record .misplaced
  | _ => pure ()
  return .construct (← spanFrom start) .constructing (callee :: (types ++ found))

def primary (g : Grammar) : Parse Node := do
  match ← kind with
  | .number digits => literalOperand (.number digits)
  | .bigint digits => literalOperand (.bigint digits)
  | .string value => literalOperand (.string value)
  | .template _ _ => template g false
  | .mark .bracketOpen => arrayLiteral g
  | .mark .braceOpen => objectLiteral g
  | .mark .parenOpen => parenthesized g
  | .mark .slash | .mark .slashAssign => regexp
  | .mark .atSign => decoratedClass g
  | .mark .less => if ← elements then elementExpression g else unexpected
  | .word "null" => literalOperand .null
  | .word "true" => literalOperand (.boolean true)
  | .word "false" => literalOperand (.boolean false)
  | .word "this" => wordOperand .this
  | .word "function" => functionExpression g
  | .word "class" => classRest g (← start) []
  | .word "new" => constructing g
  | .word "super" => superOperand
  | .word "import" => importOperand g
  | .word "async" => if ← atAsyncFunction then functionExpression g else reference
  | _ => reference

def operand (g : Grammar) : Parse Node := do
  let start ← start
  let first ← g.primary
  let access ← calls g start ⟨first, false, none⟩
  return closeChain (← spanFrom start) access

end ScriptLint.Syntax.Parse
