import ScriptLint.Syntax.Parser.Function

/-! Declarations of variables. -/

namespace ScriptLint.Syntax

structure Declared where
  node : Node
  bound : Node
  valued : Bool

namespace Parse

def isName : Node → Bool
  | .identifier _ _ => true
  | _ => false

def declared (g : Grammar) : Parse Declared := do
  let start ← start
  let bound ← g.binding
  if (← typed) && isName bound && !(← onNewLine) then let _ ← eat .bang
  let type ← ascription g
  let value ← if ← eat .assign then pure [← g.assignment true] else pure []
  return ⟨.construct (← spanFrom start) .binding (bound :: (type ++ value)), bound, !value.isEmpty⟩

/-- Patterns and constants need a value, except where something is only announced. -/
def checkValue (constant : Bool) (declared : Declared) : Parse Unit := do
  if declared.valued || (← read).ambient then return
  match declared.bound with
  | .identifier _ _ => if constant then record .noInitializer
  | _ => record .noPatternInitializer

def declaredList (g : Grammar) : Parse (List Declared) := do
  let first ← declared g
  iterate (fun (found : List Declared) => do
    if ← eat .comma then return .inl ((← declared g) :: found)
    return .inr found.reverse) [first]

def variableDeclaration (g : Grammar) (place : Place) (start : Nat) : Parse Node := do
  let constant ← atWord "const"
  let lexical := constant || (← atWord "let")
  if lexical && place = .body then record .misplaced
  advance
  let found ← declaredList g
  semicolon
  found.forM (checkValue constant)
  return .construct (← spanFrom start) .bindings (found.map Declared.node)

end Parse
end ScriptLint.Syntax
