import ScriptLint.Text.Span

/-! The syntax tree. Calls, elements, member accesses and literals have constructors of their own,
since rules look at them; every other form is a `construct` that keeps its parts in source order.
Parentheses and optional chains stay in the tree. -/

namespace ScriptLint

inductive Literal where
  | string (value : String)
  | number (digits : String)
  | bigint (digits : String)
  | boolean (value : Bool)
  | null
  | regexp (pattern flags : String)
  deriving DecidableEq, Repr, Inhabited

structure Quasi where
  raw : String
  cooked : Option String
  deriving DecidableEq, Repr, Inhabited

/-- The name of an element. A plain name is `intrinsic` when it is written like an HTML tag and a
`reference` to a component otherwise. -/
inductive TagName where
  | intrinsic (name : String)
  | reference (name : String)
  | namespaced (space name : String)
  | member (object : TagName) (property : String)
  | this
  deriving DecidableEq, Repr, Inhabited

inductive Construct where
  -- statements
  | block | empty | directive | ifElse | forLoop | forIn | forOf | whileLoop | doWhile | continueTo
  | breakTo | returned | withScope | switch | switchCase | throwing | trying | catching | labeled
  | debugger | bindings | binding
  -- functions and classes
  | function | arrow | functionBody | parameter | restParameter | thisParameter | classDefinition | classBody
  | method | field | accessor | staticBlock | indexSignature | decorator | heritage
  -- modules
  | importing | exporting | exportingDefault | exportingAll | specifier | importAttribute
  | importAlias | exportAssignment | exportNamespace
  -- expressions
  | this | super | metaProperty | unary | update | binary | logical | coalescing | assignment
  | compoundAssignment | conditional | sequence | constructing | importCall | taggedTemplate | yielding
  | awaiting | privateName | privateMember | privateIn | hole
  | casting | satisfying | nonNull | assertion | instantiation
  -- object literals
  | property | shorthand | shorthandDefault | objectMethod | getter | setter
  -- patterns
  | arrayPattern | objectPattern | defaulted | rest | patternProperty
  -- elements
  | fragment | elementText | container | emptyContainer | spreadChild | elementAttribute
  | spreadAttribute | attributeText
  -- types
  | ascription | typeParameters | typeParameter | typeReference | typeLiteral | typeMember
  | functionType | constructorType | arrayType | tupleType | tupleMember | unionType
  | intersectionType | conditionalType | inferType | operatorType | indexedType | mappedType
  | literalType | templateType | queryType | importType | predicateType | keywordType | parenthesizedType
  | optionalType | restType | nullableType | nonNullType
  -- declarations that only type checkers read
  | interface | typeAlias | enumeration | enumMember | module | global | ambient
  deriving DecidableEq, Repr, Inhabited

inductive Node where
  | identifier (span : Span) (name : String)
  | literal (span : Span) (value : Literal)
  | template (span : Span) (quasis : List Quasi) (substitutions : List Node)
  | array (span : Span) (elements : List Node)
  | object (span : Span) (properties : List Node)
  | parenthesized (span : Span) (inner : Node)
  | chain (span : Span) (inner : Node)
  | spread (span : Span) (argument : Node)
  | member (span : Span) (owner : Node) (property : String) (optional : Bool)
  | index (span : Span) (owner key : Node) (optional : Bool)
  | call (span : Span) (callee : Node) (typeArguments arguments : List Node) (optional : Bool)
  | element (span : Span) (tag : TagName) (typeArguments attributes content : List Node)
  | expressionStatement (span : Span) (expression : Node)
  | construct (span : Span) (kind : Construct) (parts : List Node)
  deriving Repr, Inhabited

namespace Node

def span : Node → Span
  | identifier span _ | literal span _ | template span _ _ | array span _ | object span _
  | parenthesized span _ | chain span _ | spread span _ | member span _ _ _ | index span _ _ _
  | call span _ _ _ _ | element span _ _ _ _ | expressionStatement span _ | construct span _ _ => span

def children : Node → List Node
  | identifier _ _ | literal _ _ => []
  | template _ _ parts | array _ parts | object _ parts | construct _ _ parts => parts
  | parenthesized _ inner | chain _ inner | spread _ inner | member _ inner _ _
  | expressionStatement _ inner => [inner]
  | index _ owner key _ => [owner, key]
  | call _ callee typeArguments arguments _ => callee :: (typeArguments ++ arguments)
  | element _ _ typeArguments attributes content => typeArguments ++ attributes ++ content

def withoutParentheses : Node → Node
  | parenthesized _ inner => inner.withoutParentheses
  | node => node

end Node

structure Directive where
  span : Span
  text : String
  deriving DecidableEq, Repr, Inhabited

structure Program where
  span : Span
  directives : List Directive
  body : List Node
  deriving Repr, Inhabited

end ScriptLint
