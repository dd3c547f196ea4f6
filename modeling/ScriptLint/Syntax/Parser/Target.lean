import ScriptLint.Syntax.Parser.Name

/-! Expressions as targets of assignments. What is read as an array or object literal becomes a pattern
when an assignment follows it. -/

namespace ScriptLint

namespace Node

/-- The target that an expression without structure is: a variable or a member, perhaps with type
operators or parentheses around it. -/
def simpleTarget? : Node → Option Node
  | node@(.identifier _ _) | node@(.member _ _ _ _) | node@(.index _ _ _ _)
  | node@(.construct _ .privateMember _) => some node
  | .parenthesized span inner => inner.simpleTarget?.map (.parenthesized span)
  | .construct span kind [operand] =>
    if kind = .nonNull then operand.simpleTarget?.map fun inner => .construct span kind [inner] else none
  | .construct span kind [first, second] =>
    if kind = .casting || kind = .satisfying then
      first.simpleTarget?.map fun inner => .construct span kind [inner, second]
    else if kind = .assertion then second.simpleTarget?.map fun inner => .construct span kind [first, inner]
    else none
  | _ => none

end Node

namespace Syntax.Parse

def simpleTarget (node : Node) : Parse Node :=
  match Node.simpleTarget? node with
  | some target => return target
  | none => fail .notAssignable

def noComma (span : Span) : Parse Unit := do
  if (← get).afterSpread.contains span.start then fail .misplaced

mutual
def target : Node → Parse Node
  | .array span elements => do
    noComma span
    return .construct span .arrayPattern (← elementTargets elements)
  | .object span properties => do
    noComma span
    return .construct span .objectPattern (← propertyTargets properties)
  | node => simpleTarget node

def defaultedTarget : Node → Parse Node
  | .construct span .assignment [left, value] => return .construct span .defaulted [left, value]
  | node => target node

def elementTargets : List Node → Parse (List Node)
  | [] => return []
  | .spread span argument :: rest => do
    unless rest.isEmpty do fail .misplaced
    return [.construct span .rest [← target argument]]
  | hole@(.construct _ .hole _) :: rest => return hole :: (← elementTargets rest)
  | element :: rest => return (← defaultedTarget element) :: (← elementTargets rest)

def propertyTargets : List Node → Parse (List Node)
  | [] => return []
  | .spread span argument :: rest => do
    unless rest.isEmpty do fail .misplaced
    return [.construct span .rest [← simpleTarget argument]]
  | .construct span .property [key, value] :: rest =>
    return .construct span .patternProperty [key, ← defaultedTarget value] :: (← propertyTargets rest)
  | .construct span .shorthand parts :: rest =>
    return .construct span .patternProperty parts :: (← propertyTargets rest)
  | .construct span .shorthandDefault parts :: rest => do
    modify fun state => { state with defaults := state.defaults.filter (· != span.start) }
    return .construct span .patternProperty parts :: (← propertyTargets rest)
  | _ :: _ => fail .notAssignable
end

end Syntax.Parse
end ScriptLint
