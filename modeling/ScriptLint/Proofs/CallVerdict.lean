import ScriptLint.Proofs.CallRules

/-! What the verdicts on a call depend on. Both rules about calls ask for the name that is called, and one of them
also asks whether the first argument is a literal. Where the arguments stand does not matter. -/

namespace ScriptLint

namespace Node

mutual
def withoutSpans : Node → Node
  | identifier _ name => identifier ⟨0, 0⟩ name
  | literal _ value => literal ⟨0, 0⟩ value
  | template _ quasis parts => template ⟨0, 0⟩ quasis (withoutSpansAll parts)
  | array _ parts => array ⟨0, 0⟩ (withoutSpansAll parts)
  | object _ parts => object ⟨0, 0⟩ (withoutSpansAll parts)
  | parenthesized _ inner => parenthesized ⟨0, 0⟩ inner.withoutSpans
  | chain _ inner => chain ⟨0, 0⟩ inner.withoutSpans
  | spread _ inner => spread ⟨0, 0⟩ inner.withoutSpans
  | member _ owner property optional => member ⟨0, 0⟩ owner.withoutSpans property optional
  | index _ owner key optional => index ⟨0, 0⟩ owner.withoutSpans key.withoutSpans optional
  | call _ callee types arguments optional =>
    call ⟨0, 0⟩ callee.withoutSpans (withoutSpansAll types) (withoutSpansAll arguments) optional
  | element _ tag types attributes content =>
    element ⟨0, 0⟩ tag (withoutSpansAll types) (withoutSpansAll attributes) (withoutSpansAll content)
  | expressionStatement _ inner => expressionStatement ⟨0, 0⟩ inner.withoutSpans
  | construct _ kind parts => construct ⟨0, 0⟩ kind (withoutSpansAll parts)

def withoutSpansAll : List Node → List Node
  | [] => []
  | node :: rest => node.withoutSpans :: withoutSpansAll rest
end

theorem withoutParentheses_withoutSpans (node : Node) :
    node.withoutSpans.withoutParentheses = node.withoutParentheses.withoutSpans := by
  fun_induction withoutParentheses node with
  | case1 span inner ih => simpa only [withoutSpans, withoutParentheses] using ih
  | case2 node plain =>
    cases node with
    | parenthesized span inner => exact absurd rfl (plain span inner)
    | _ => simp only [withoutSpans, withoutParentheses]

theorem isLiteralValue_withoutSpans (node : Node) : node.withoutSpans.isLiteralValue = node.isLiteralValue := by
  unfold isLiteralValue
  rw [withoutParentheses_withoutSpans]
  cases node.withoutParentheses with
  | template span quasis parts => cases parts <;> simp only [withoutSpans, withoutSpansAll, List.isEmpty]
  | _ => simp only [withoutSpans]

end Node

namespace CallSite

structure SameVerdicts (site other : CallSite) : Prop where
  apply : (NoFunctionApply.find other).isSome = (NoFunctionApply.find site).isSome
  literal : (NoLiteral.find other).isSome = (NoLiteral.find site).isSome

def SameArguments (site other : CallSite) : Prop :=
  other.arguments.map Node.withoutSpans = site.arguments.map Node.withoutSpans

/-- What is spread is no literal value, so that it need not be asked about. -/
theorem startsWithLiteral_iff (site : CallSite) :
    site.StartsWithLiteral ↔ site.arguments.head?.any Node.isLiteralValue = true := by
  unfold StartsWithLiteral
  cases site.arguments with
  | nil => simp
  | cons first rest =>
    simp only [List.head?_cons, Option.any_some]
    constructor
    · rintro ⟨_, _, same, -, literal⟩
      rwa [(List.cons.inj same).1]
    · intro literal
      refine ⟨first, rest, rfl, ?_, literal⟩
      rintro span inner rfl
      cases literal

theorem SameArguments.startsWithLiteral {site other : CallSite} (same : site.SameArguments other) :
    other.StartsWithLiteral ↔ site.StartsWithLiteral := by
  have asked (arguments : List Node) : arguments.head?.any Node.isLiteralValue =
      (arguments.map Node.withoutSpans).head?.any Node.isLiteralValue := by
    cases arguments with
    | nil => rfl
    | cons first rest => exact (Node.isLiteralValue_withoutSpans first).symm
  rw [startsWithLiteral_iff, startsWithLiteral_iff, asked other.arguments, same, ← asked site.arguments]

end CallSite

namespace Program

def calls (program : Program) : List CallSite := program.nodes.filterMap Node.callSite?

theorem exists_call_of_any {E : Type} {result : Except E Program} {test : CallSite → Bool}
    (fits : result.toOption.any (fun program => program.calls.any test) = true) :
    ∃ program, result = .ok program ∧ ∃ site ∈ program.calls, test site = true := by
  obtain ⟨program, parsed, some⟩ := exists_ok_of_any fits
  exact ⟨program, parsed, List.any_eq_true.mp some⟩

end Program

theorem NoFunctionApply.find_isSome_iff (site : CallSite) :
    (find site).isSome = true ↔ site.memberName? = some "apply" := by
  unfold find
  split <;> simp_all

theorem NoLiteral.find_isSome_iff_startsWithLiteral (site : CallSite) :
    (find site).isSome = true ↔ site.memberName? = some "apply" ∧ site.StartsWithLiteral := by
  rw [Option.isSome_iff_exists]
  constructor
  · rintro ⟨span, found⟩
    have named := ((find_eq_some_iff site span).mp found).1
    exact ⟨named, (find_isSome_iff named).mp ⟨span, found⟩⟩
  · rintro ⟨named, starts⟩
    exact (find_isSome_iff named).mpr starts

namespace CallSite

/-- The verdicts on a call depend on the name that is called and on whether the call starts with a literal. -/
theorem sameVerdicts {site other : CallSite} (sameName : other.memberName? = site.memberName?)
    (sameStart : other.StartsWithLiteral ↔ site.StartsWithLiteral) : site.SameVerdicts other := by
  constructor
  · rw [Bool.eq_iff_iff, NoFunctionApply.find_isSome_iff, NoFunctionApply.find_isSome_iff, sameName]
  · rw [Bool.eq_iff_iff, NoLiteral.find_isSome_iff_startsWithLiteral,
      NoLiteral.find_isSome_iff_startsWithLiteral, sameName, sameStart]

theorem find_eq_none_of_ne_apply {site : CallSite} (other : site.memberName? ≠ some "apply") :
    NoFunctionApply.find site = none ∧ NoLiteral.find site = none :=
  ⟨if_neg other, if_neg other⟩

end CallSite
end ScriptLint
