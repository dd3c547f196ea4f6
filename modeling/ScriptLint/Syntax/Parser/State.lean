import ScriptLint.Syntax.Dialect
import ScriptLint.Syntax.Lexer

/-! The state of the parser, which is the current token with what surrounds it, and the steps on it. A
step that fails names one issue; issues that do not stop the parser are collected. -/

namespace ScriptLint.Syntax

structure Scope where
  dialect : Dialect
  -- at least the number of tokens of the program
  fuel : Nat
  inOperator : Bool := true
  yields : Bool := false
  awaits : Bool := false
  returns : Bool := false
  ambient : Bool := false
  decorating : Bool := false
  conditionalTypes : Bool := true

structure State where
  token : Token
  ahead : Scan
  before : Nat := 0
  issues : List Issue := []
  -- where shorthand members with a default stand that are not part of a pattern so far
  defaults : List Nat := []
  -- where literals stand that have a comma behind a last item that is spread
  afterSpread : List Nat := []
  -- where parentheses stand that are known not to hold the parameters of an arrow function
  notArrow : List Nat := []
  modular : Bool := false
  exported : List String := []

abbrev Parse := ReaderT Scope (EStateM Issue State)

namespace State

def ofScan (scan : Scan) : State :=
  let (token, ahead) := Lexer.token scan
  { token, ahead }

def next (state : State) : State :=
  let (token, ahead) := Lexer.token state.ahead
  { state with token, ahead, before := state.token.stop }

def record (state : State) (issue : Issue) : State := { state with issues := issue :: state.issues }

end State

namespace Parse

def token : Parse Token := return (← get).token

def kind : Parse TokenKind := return (← get).token.kind

def start : Parse Nat := return (← get).token.start.offset

def spanFrom (start : Nat) : Parse Span := return ⟨start, (← get).before⟩

def typed : Parse Bool := return (← read).dialect.typed

def elements : Parse Bool := return (← read).dialect.elements

def fail {A : Type} (issue : Issue) : Parse A := do
  match ← kind with
  -- the current token is not even a token
  | .invalid first => throw first
  | _ => throw issue

def unexpected {A : Type} : Parse A := fail .unexpectedToken

def record (issue : Issue) : Parse Unit := modify (·.record issue)

def advanceName : Parse Unit := modify State.next

def advance : Parse Unit := do
  let token ← token
  if token.escaped then
    match token.kind with
    | .word name => if isKeyword name then record .escapedKeyword
    | _ => pure ()
  advanceName

def atMark (mark : Mark) : Parse Bool := return (← kind) = .mark mark

def atWord (name : String) : Parse Bool := return (← kind) = .word name

def atAnyWord (names : List String) : Parse Bool := do
  match ← kind with
  | .word name => return names.contains name
  | _ => return false

def atAnyMark (marks : List Mark) : Parse Bool := do
  match ← kind with
  | .mark mark => return marks.contains mark
  | _ => return false

def atEnd : Parse Bool := return (← kind) = .ending

def onNewLine : Parse Bool := return (← token).newline

def eat (mark : Mark) : Parse Bool := do
  if ← atMark mark then
    advance
    return true
  return false

def eatWord (name : String) : Parse Bool := do
  if ← atWord name then
    advance
    return true
  return false

def requireMark (mark : Mark) : Parse Unit := do
  unless ← atMark mark do fail (.expected mark.text (← kind).text)

def expect (mark : Mark) : Parse Unit := do
  requireMark mark
  advance

def expectWord (name : String) : Parse Unit := do
  unless ← eatWord name do fail (.expected name (← kind).text)

def canEndStatement : Parse Bool := do
  return (← atMark .semicolon) || (← atMark .braceClose) || (← atEnd) || (← onNewLine)

def semicolon : Parse Unit := do
  unless ← eat .semicolon do
    unless ← canEndStatement do fail .noSemicolon

def lookahead {A : Type} (default : A) (step : Parse A) : Parse A := fun scope state =>
  match step scope state with
  | .ok found _ => .ok found state
  | .error _ _ => .ok default state

/-- The result of a step, or the state before it if it fails. What has been learnt about arrow
functions is kept. -/
def attempt {A : Type} (step : Parse A) : Parse (Option A) := fun scope state =>
  match step scope state with
  | .ok found state => .ok (some found) state
  | .error _ after => .ok none { state with notArrow := after.notArrow }

def attempt? {A : Type} (step : Parse (Option A)) : Parse (Option A) := fun scope state =>
  match step scope state with
  | .ok (some found) state => .ok (some found) state
  | .ok none after | .error _ after => .ok none { state with notArrow := after.notArrow }

def nextToken (test : Token → Bool) : Parse Bool := return test (← get).next.token

def iterate {S A : Type} (step : S → Parse (S ⊕ A)) (initial : S) : Parse A := do
  go step (← read).fuel initial
where
  go (step : S → Parse (S ⊕ A)) : Nat → S → Parse A
    | 0, _ => unexpected
    | fuel + 1, state => do
      match ← step state with
      | .inl state => go step fuel state
      | .inr result => return result

def manyUntil {A : Type} (stop : Parse Bool) (item : Parse A) : Parse (List A) :=
  iterate (fun found => do
    if ← stop then return .inr found.reverse
    return .inl ((← item) :: found)) []

/-- Items with commas between them and perhaps after the last, up to a closing mark, which is not read.
Also tells whether a comma came last. -/
def commaList {A : Type} (close : Mark) (item : Parse A) : Parse (List A × Bool) :=
  iterate (fun ((found, comma) : List A × Bool) => do
    if (← atMark close) || (← atEnd) then return .inr (found.reverse, comma)
    unless found.isEmpty || comma do fail (.expected close.text (← kind).text)
    let found := (← item) :: found
    return .inl (found, ← eat .comma)) ([], false)

def bracketed {A : Type} (first last : Mark) (item : Parse A) : Parse (List A) := do
  expect first
  let (found, _) ← commaList last item
  expect last
  return found

def inScope {A : Type} (change : Scope → Scope) (step : Parse A) : Parse A := fun scope state =>
  step (change scope) state

def withIn {A : Type} (step : Parse A) : Parse A := inScope ({ · with inOperator := true, decorating := false }) step

def withoutIn {A : Type} (step : Parse A) : Parse A := inScope ({ · with inOperator := false }) step

end Parse
end ScriptLint.Syntax
