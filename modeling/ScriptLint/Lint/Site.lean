import ScriptLint.Syntax.Walk

/-! The places of a tree that rules look at: calls and elements. -/

namespace ScriptLint

structure CallSite where
  span : Span
  callee : Node
  typeArguments : List Node
  arguments : List Node
  optional : Bool
  deriving Repr, Inhabited

structure ElementSite where
  span : Span
  tag : TagName
  typeArguments : List Node
  attributes : List Node
  content : List Node
  deriving Repr, Inhabited

inductive Site where
  | call (site : CallSite)
  | element (site : ElementSite)
  deriving Repr

namespace Node

def callSite? : Node → Option CallSite
  | call span callee typeArguments arguments optional =>
    some ⟨span, callee, typeArguments, arguments, optional⟩
  | _ => none

def elementSite? : Node → Option ElementSite
  | element span tag typeArguments attributes content =>
    some ⟨span, tag, typeArguments, attributes, content⟩
  | _ => none

def site? (node : Node) : Option Site :=
  match node.callSite? with
  | some site => some (.call site)
  | none => node.elementSite?.map .element

def isLiteralValue (node : Node) : Bool :=
  match node.withoutParentheses with
  | literal _ _ | object _ _ | array _ _ => true
  | template _ _ substitutions => substitutions.isEmpty
  | _ => false

end Node

namespace CallSite

/-- The name of the member that is called, parentheses around the callee left out. A key in brackets
counts if it is a string, by its value, or a template without substitutions, by its text as written. -/
def memberName? (site : CallSite) : Option String :=
  match site.callee.withoutParentheses with
  | .member _ _ property _ => some property
  | .index _ _ (.literal _ (.string value)) _ => some value
  | .index _ _ (.template _ quasis []) _ => quasis.head?.map Quasi.raw
  | _ => none

def firstArgument? (site : CallSite) : Option Node :=
  match site.arguments with
  | [] | .spread _ _ :: _ => none
  | argument :: _ => some argument

end CallSite

def ElementSite.intrinsicName? (site : ElementSite) : Option String :=
  match site.tag with
  | .intrinsic name => some name
  | _ => none

namespace Program

def sites (program : Program) : List Site := program.nodes.filterMap Node.site?

end Program
end ScriptLint
