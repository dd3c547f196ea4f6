import ScriptLint.Proofs.Parentheses

/-! Calls of optional members. A callee is looked at without the parentheses around it, but an optional chain that
ends inside of them is not opened. So `a?.b()` and `(a.b)()` call a member by name, and `(a?.b)()` does not. -/

namespace ScriptLint

namespace Node

def withoutWrappers : Node → Node
  | parenthesized _ inner | chain _ inner => inner.withoutWrappers
  | node => node

def accessedName? : Node → Option String
  | member _ _ property _ => some property
  | index _ _ (literal _ (.string value)) _ => some value
  | _ => none

/-- A chain ends inside the parentheses around the node, or where the node does. -/
def endsChain (node : Node) : Bool :=
  match node.withoutParentheses with
  | chain _ _ => true
  | _ => false

theorem withoutParentheses_of_endsChain {node : Node} (ends : node.endsChain = false) :
    node.withoutParentheses = node.withoutWrappers := by
  unfold endsChain at ends
  fun_induction withoutWrappers node with
  | case1 span inner ih => exact ih ends
  | case2 span inner ih => simp [withoutParentheses] at ends
  | case3 node notInside notChain => exact withoutParentheses.eq_2 node notInside

theorem withoutWrappers_inParentheses (spans : List Span) (node : Node) :
    (node.inParentheses spans).withoutWrappers = node.withoutWrappers := by
  induction spans with
  | nil => rfl
  | cons span rest ih => exact ih

theorem endsChain_inParentheses (spans : List Span) (node : Node) :
    (node.inParentheses spans).endsChain = node.endsChain := by
  unfold endsChain
  rw [withoutParentheses_inParentheses]

theorem plain_of_accessedName? {access : Node} {name : String} (accessed : access.accessedName? = some name) :
    access.withoutWrappers = access ∧ access.endsChain = false := by
  unfold accessedName? at accessed
  split at accessed
  · exact ⟨rfl, rfl⟩
  · exact ⟨rfl, rfl⟩
  · contradiction

end Node

namespace CallSite

theorem memberName?_of_accessedName? {site : CallSite} {name : String}
    (accessed : site.callee.withoutParentheses.accessedName? = some name) : site.memberName? = some name := by
  unfold memberName?
  unfold Node.accessedName? at accessed
  split at accessed
  · rename_i callee
    rw [callee]
    exact accessed
  · rename_i callee
    rw [callee]
    exact accessed
  · contradiction

theorem memberName?_of_endsChain {site : CallSite} (ends : site.callee.endsChain = true) : site.memberName? = none := by
  unfold memberName?
  unfold Node.endsChain at ends
  split at ends
  · rename_i callee
    rw [callee]
  · contradiction

theorem memberName?_eq_ite {site : CallSite} {name : String}
    (accessed : site.callee.withoutWrappers.accessedName? = some name) :
    site.memberName? = if site.callee.endsChain then none else some name := by
  cases ends : site.callee.endsChain with
  | true => exact memberName?_of_endsChain ends
  | false =>
    rw [← Node.withoutParentheses_of_endsChain ends] at accessed
    exact memberName?_of_accessedName? accessed

/-- A call of a member that is accessed by a name is looked at by that name, unless a chain ends inside the
parentheses around the callee. So parentheses around an access that is in no chain of its own make no difference,
while a chain in parentheses hides the call from both rules. -/
theorem named_unless_chain_ends {site : CallSite} {name : String}
    (accessed : site.callee.withoutWrappers.accessedName? = some name) :
    (site.memberName? = if site.callee.endsChain then none else some name) ∧
    (NoFunctionApply.find site = some site.span ↔ name = "apply" ∧ site.callee.endsChain = false) ∧
    ((NoLiteral.find site).isSome = true ↔
      name = "apply" ∧ site.callee.endsChain = false ∧ site.StartsWithLiteral) ∧
    (∀ other : CallSite, other.callee.withoutWrappers.accessedName? = some name →
      other.callee.endsChain = site.callee.endsChain → site.SameArguments other → site.SameVerdicts other) ∧
    ∀ (access : Node) (place : Span) (around : List Span), access.accessedName? = some name →
      ((access.inParentheses around).withoutWrappers = access ∧ (access.inParentheses around).endsChain = false) ∧
      ((Node.chain place access).inParentheses around).withoutWrappers = access ∧
      ((Node.chain place access).inParentheses around).endsChain = true := by
  have called := memberName?_eq_ite accessed
  have isApply : site.memberName? = some "apply" ↔ name = "apply" ∧ site.callee.endsChain = false := by
    rw [called]
    cases site.callee.endsChain <;> simp
  refine ⟨called, ?_, ?_, ?_, ?_⟩
  · rw [← isApply, ← NoFunctionApply.find_isSome_iff]
    constructor
    · intro found
      rw [found]
      rfl
    · intro found
      exact NoFunctionApply.find_of_apply ((NoFunctionApply.find_isSome_iff site).mp found)
  · rw [NoLiteral.find_isSome_iff_startsWithLiteral, isApply, and_assoc]
  · intro other otherAccessed sameEnd sameArguments
    refine sameVerdicts ?_ sameArguments.startsWithLiteral
    rw [called, memberName?_eq_ite otherAccessed, sameEnd]
  · intro access place around named
    obtain ⟨bare, unchained⟩ := Node.plain_of_accessedName? named
    refine ⟨⟨?_, ?_⟩, ?_, ?_⟩
    · rw [Node.withoutWrappers_inParentheses, bare]
    · rw [Node.endsChain_inParentheses, unchained]
    · rw [Node.withoutWrappers_inParentheses, Node.withoutWrappers, bare]
    · rw [Node.endsChain_inParentheses]
      rfl

theorem named_unless_chain_ends_brackets :
    let owner := Node.identifier ⟨2, 3⟩ "o"
    let inside : CallSite := ⟨⟨0, 14⟩, (Node.member ⟨2, 9⟩ owner "apply" false).inParentheses [⟨0, 11⟩, ⟨1, 10⟩], [],
      [.literal ⟨12, 13⟩ (.number "1")], false⟩
    let optional : CallSite := ⟨⟨2, 17⟩, .index ⟨2, 14⟩ owner (.literal ⟨6, 13⟩ (.string "apply")) true, [],
      [.literal ⟨15, 16⟩ (.number "1")], false⟩
    NoFunctionApply.find inside = some inside.span ∧ inside.SameVerdicts optional := by
  intro owner inside optional
  have accessed : inside.callee.withoutWrappers.accessedName? = some "apply" := rfl
  obtain ⟨-, found, -, same, -⟩ := named_unless_chain_ends accessed
  exact ⟨found.mpr ⟨rfl, rfl⟩, same optional rfl rfl rfl⟩

/-- A chain that ends in parentheses hides a call of `apply`. -/
theorem chained_apply_unreported :
    ∃ program, Program.ofText (.ofPath "a.js") "(o?.apply)(1)" = .ok program ∧ ∃ site ∈ program.calls,
      site.callee.withoutWrappers.accessedName? = some "apply" ∧ NoFunctionApply.find site = none ∧
      NoLiteral.find site = none := by
  have checked : (Program.ofText (.ofPath "a.js") "(o?.apply)(1)").toOption.any (fun program =>
      program.calls.any fun site => decide (site.callee.withoutWrappers.accessedName? = some "apply" ∧
        NoFunctionApply.find site = none ∧ NoLiteral.find site = none)) = true := by decide +kernel
  obtain ⟨program, parsed, site, inTree, fits⟩ := Program.exists_call_of_any checked
  exact ⟨program, parsed, site, inTree, of_decide_eq_true fits⟩

end CallSite
end ScriptLint
