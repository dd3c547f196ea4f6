import ScriptLint.Proofs.CallVerdict

/-! Parentheses do not matter to the rules about calls. Both look at the callee and at the first argument without the
parentheses around them, and at no other argument. So a call may be written with more of them and with other
arguments behind the first, and gets the same verdicts. -/

namespace ScriptLint

namespace Node

def inParentheses (spans : List Span) (node : Node) : Node := spans.foldr parenthesized node

inductive IsLiteral : Node → Prop where
  | string (span : Span) (value : String) : IsLiteral (.literal span (.string value))
  | number (span : Span) (digits : String) : IsLiteral (.literal span (.number digits))
  | bigint (span : Span) (digits : String) : IsLiteral (.literal span (.bigint digits))
  | boolean (span : Span) (value : Bool) : IsLiteral (.literal span (.boolean value))
  | null (span : Span) : IsLiteral (.literal span .null)
  | regexp (span : Span) (pattern flags : String) : IsLiteral (.literal span (.regexp pattern flags))
  | object (span : Span) (properties : List Node) : IsLiteral (.object span properties)
  | array (span : Span) (elements : List Node) : IsLiteral (.array span elements)
  | template (span : Span) (quasis : List Quasi) : IsLiteral (.template span quasis [])

theorem withoutParentheses_inParentheses (spans : List Span) (node : Node) :
    (node.inParentheses spans).withoutParentheses = node.withoutParentheses := by
  induction spans with
  | nil => rfl
  | cons span rest ih => exact ih

theorem isLiteralValue_inParentheses (spans : List Span) (node : Node) :
    (node.inParentheses spans).isLiteralValue = node.isLiteralValue := by
  unfold isLiteralValue
  rw [withoutParentheses_inParentheses]

/-- Every node is one without parentheses inside some of them. -/
theorem exists_eq_inParentheses (node : Node) : ∃ spans, node = node.withoutParentheses.inParentheses spans := by
  fun_induction withoutParentheses node with
  | case1 span inner ih =>
    obtain ⟨spans, same⟩ := ih
    exact ⟨span :: spans, congrArg (parenthesized span) same⟩
  | case2 node plain => exact ⟨[], rfl⟩

theorem IsLiteral.isLiteralValue {node : Node} (literal : node.IsLiteral) : node.isLiteralValue = true := by
  cases literal <;> rfl

theorem isLiteral_of_isLiteralValue {node : Node} (holds : node.isLiteralValue = true) :
    node.withoutParentheses.IsLiteral := by
  unfold Node.isLiteralValue at holds
  split at holds
  · rename_i span value plain
    rw [plain]
    cases value <;> constructor
  · rename_i span properties plain
    rw [plain]
    exact .object span properties
  · rename_i span elements plain
    rw [plain]
    exact .array span elements
  · rename_i span quasis substitutions plain
    rw [plain, List.isEmpty_iff.mp holds]
    exact .template span quasis
  · contradiction

theorem isLiteralValue_iff (node : Node) :
    node.isLiteralValue = true ↔ ∃ plain spans, node = inParentheses spans plain ∧ plain.IsLiteral := by
  constructor
  · intro holds
    obtain ⟨spans, same⟩ := node.exists_eq_inParentheses
    exact ⟨_, spans, same, isLiteral_of_isLiteralValue holds⟩
  · rintro ⟨plain, spans, rfl, literal⟩
    rw [isLiteralValue_inParentheses]
    exact literal.isLiteralValue

end Node

namespace CallSite

def inParentheses (site : CallSite) (span : Span) (around aroundFirst : List Span) (others : List Node) : CallSite :=
  { site with
    span
    callee := site.callee.inParentheses around
    arguments := match site.arguments with
      | [] => []
      | .spread place inner :: _ => .spread place inner :: others
      | first :: _ => first.inParentheses aroundFirst :: others }

theorem memberName?_congr {site other : CallSite}
    (same : other.callee.withoutParentheses = site.callee.withoutParentheses) :
    other.memberName? = site.memberName? := by
  unfold memberName?
  rw [same]

theorem startsWithLiteral_inParentheses (site : CallSite) (span : Span) (around aroundFirst : List Span)
    (others : List Node) :
    (site.inParentheses span around aroundFirst others).StartsWithLiteral ↔ site.StartsWithLiteral := by
  rw [startsWithLiteral_iff, startsWithLiteral_iff]
  unfold inParentheses
  dsimp only
  split
  · rename_i none
    rw [none]
  · rename_i place inner rest parts
    rw [parts]
    rfl
  · rename_i first rest _ parts
    rw [parts]
    simp only [List.head?_cons, Option.any_some, Node.isLiteralValue_inParentheses]

end CallSite

/-- Parentheses around the callee and around the first argument, and all other arguments, make no difference to what
is said about a call. Its first argument is reported, with its parentheses, if and only if the call is one of `apply`,
and that argument is not spread and is a literal inside its parentheses. A call of `apply` is reported as a whole. -/
theorem only_first_argument_counts :
    (∀ (site : CallSite) (span : Span) (around aroundFirst : List Span) (others : List Node),
      site.SameVerdicts (site.inParentheses span around aroundFirst others)) ∧
    (∀ (site : CallSite) (span : Span), NoLiteral.find site = some span ↔
      (NoFunctionApply.find site).isSome = true ∧ ∃ first others, site.arguments = first :: others ∧
        (∀ place inner, first ≠ .spread place inner) ∧
        (∃ plain spans, first = Node.inParentheses spans plain ∧ plain.IsLiteral) ∧ first.span = span) ∧
    ∀ site : CallSite, NoFunctionApply.find site = none ∨ NoFunctionApply.find site = some site.span := by
  refine ⟨?_, ?_, ?_⟩
  · intro site span around aroundFirst others
    apply CallSite.sameVerdicts
    · exact CallSite.memberName?_congr (Node.withoutParentheses_inParentheses around site.callee)
    · exact site.startsWithLiteral_inParentheses span around aroundFirst others
  · intro site span
    simp only [NoLiteral.find_eq_some_iff, NoFunctionApply.find_isSome_iff, Node.isLiteralValue_iff]
  · intro site
    unfold NoFunctionApply.find
    split
    · exact .inr rfl
    · exact .inl rfl

end ScriptLint
