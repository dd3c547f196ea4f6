import ScriptLint.Syntax.Node

/-! Walking a tree: a node comes before the nodes below it, and these come in source order. The main
statement is that a walk is a fold over the list of all nodes in that order. -/

namespace ScriptLint
namespace Node

mutual
def walk {S : Type} (enter : Node → S → S) : Node → S → S
  | node@(identifier _ _), state => enter node state
  | node@(literal _ _), state => enter node state
  | node@(template _ _ parts), state => walkAll enter parts (enter node state)
  | node@(array _ parts), state => walkAll enter parts (enter node state)
  | node@(object _ parts), state => walkAll enter parts (enter node state)
  | node@(parenthesized _ inner), state => inner.walk enter (enter node state)
  | node@(chain _ inner), state => inner.walk enter (enter node state)
  | node@(spread _ inner), state => inner.walk enter (enter node state)
  | node@(member _ inner _ _), state => inner.walk enter (enter node state)
  | node@(index _ owner key _), state => key.walk enter (owner.walk enter (enter node state))
  | node@(call _ callee types arguments _), state =>
    walkAll enter arguments (walkAll enter types (callee.walk enter (enter node state)))
  | node@(element _ _ types attributes content), state =>
    walkAll enter content (walkAll enter attributes (walkAll enter types (enter node state)))
  | node@(expressionStatement _ inner), state => inner.walk enter (enter node state)
  | node@(construct _ _ parts), state => walkAll enter parts (enter node state)

def walkAll {S : Type} (enter : Node → S → S) : List Node → S → S
  | [], state => state
  | node :: rest, state => walkAll enter rest (node.walk enter state)
end

mutual
def preorder : Node → List Node
  | node@(identifier _ _) => [node]
  | node@(literal _ _) => [node]
  | node@(template _ _ parts) => node :: preorderAll parts
  | node@(array _ parts) => node :: preorderAll parts
  | node@(object _ parts) => node :: preorderAll parts
  | node@(parenthesized _ inner) => node :: inner.preorder
  | node@(chain _ inner) => node :: inner.preorder
  | node@(spread _ inner) => node :: inner.preorder
  | node@(member _ inner _ _) => node :: inner.preorder
  | node@(index _ owner key _) => node :: (owner.preorder ++ key.preorder)
  | node@(call _ callee types arguments _) =>
    node :: (callee.preorder ++ (preorderAll types ++ preorderAll arguments))
  | node@(element _ _ types attributes content) =>
    node :: (preorderAll types ++ (preorderAll attributes ++ preorderAll content))
  | node@(expressionStatement _ inner) => node :: inner.preorder
  | node@(construct _ _ parts) => node :: preorderAll parts

def preorderAll : List Node → List Node
  | [] => []
  | node :: rest => node.preorder ++ preorderAll rest
end

theorem preorderAll_eq_flatMap (nodes : List Node) : preorderAll nodes = nodes.flatMap preorder := by
  induction nodes with
  | nil => rfl
  | cons node rest ih => simp [preorderAll, ih]

theorem preorder_eq (node : Node) : node.preorder = node :: node.children.flatMap preorder := by
  cases node <;> simp [preorder, children, preorderAll_eq_flatMap]

mutual
theorem walk_eq_foldl {S : Type} (enter : Node → S → S) (node : Node) (state : S) :
    node.walk enter state = node.preorder.foldl (fun state node => enter node state) state := by
  cases node with
  | identifier | literal => simp [walk, preorder]
  | template _ _ parts | array _ parts | object _ parts | construct _ _ parts =>
    simp [walk, preorder, walkAll_eq_foldl enter parts]
  | parenthesized _ inner | chain _ inner | spread _ inner | member _ inner _ _
  | expressionStatement _ inner => simp [walk, preorder, walk_eq_foldl enter inner]
  | index _ owner key _ =>
    simp [walk, preorder, walk_eq_foldl enter owner, walk_eq_foldl enter key]
  | call _ callee types arguments _ =>
    simp [walk, preorder, walk_eq_foldl enter callee, walkAll_eq_foldl enter types,
      walkAll_eq_foldl enter arguments]
  | element _ _ types attributes content =>
    simp [walk, preorder, walkAll_eq_foldl enter types, walkAll_eq_foldl enter attributes,
      walkAll_eq_foldl enter content]

theorem walkAll_eq_foldl {S : Type} (enter : Node → S → S) (nodes : List Node) (state : S) :
    walkAll enter nodes state = (preorderAll nodes).foldl (fun state node => enter node state) state := by
  cases nodes with
  | nil => simp [walkAll, preorderAll]
  | cons node rest =>
    simp [walkAll, preorderAll, walk_eq_foldl enter node, walkAll_eq_foldl enter rest]
end

end Node

namespace Program

def walk {S : Type} (enter : Node → S → S) (program : Program) (state : S) : S :=
  Node.walkAll enter program.body state

def nodes (program : Program) : List Node := program.body.flatMap Node.preorder

theorem walk_eq_foldl {S : Type} (enter : Node → S → S) (program : Program) (state : S) :
    program.walk enter state = program.nodes.foldl (fun state node => enter node state) state := by
  rw [walk, Node.walkAll_eq_foldl, Node.preorderAll_eq_flatMap, nodes]

end Program
end ScriptLint
