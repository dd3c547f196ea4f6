import Mathlib.Data.List.Basic
import ScriptLint.Lint.Site

/-! How the spans of a tree lie. The parser gives every node a span that holds those of its children, and the
children follow each other without overlap. Calls and elements take up text of their own, so that their spans
are always larger than those of the calls and elements below them. It follows that of two sites in the order of
a walk the first ends before the second starts or has the second strictly inside. -/

namespace ScriptLint

namespace Span

def Inside (inner outer : Span) : Prop := inner.Within outer ∧ inner ≠ outer

instance (inner outer : Span) : Decidable (inner.Inside outer) :=
  inferInstanceAs (Decidable (_ ∧ _))

def Precedes (first last : Span) : Prop := first.Before last ∨ last.Inside first

instance (first last : Span) : Decidable (first.Precedes last) :=
  inferInstanceAs (Decidable (_ ∨ _))

theorem Within.refl (span : Span) : span.Within span := ⟨Nat.le_refl _, Nat.le_refl _⟩

theorem Within.trans {inner middle outer : Span} (first : inner.Within middle) (last : middle.Within outer) :
    inner.Within outer :=
  ⟨Nat.le_trans last.1 first.1, Nat.le_trans first.2 last.2⟩

theorem Before.mono {first last firstPart lastPart : Span} (sorted : first.Before last)
    (firstInside : firstPart.Within first) (lastInside : lastPart.Within last) :
    firstPart.Before lastPart :=
  Nat.le_trans firstInside.2 (Nat.le_trans sorted lastInside.1)

end Span

def Site.span : Site → Span
  | .call site => site.span
  | .element site => site.span

namespace Node

theorem span_of_site? {node : Node} {site : Site} (found : node.site? = some site) : site.span = node.span := by
  cases node <;> simp [site?, callSite?, elementSite?] at found <;> subst found <;> rfl

theorem sizeOf_lt_of_mem_children {node child : Node} (member : child ∈ node.children) :
    sizeOf child < sizeOf node := by
  cases node with
  | identifier | literal => simp [children] at member
  | template _ _ parts | array _ parts | object _ parts | construct _ _ parts =>
    have smaller : sizeOf child < sizeOf parts := List.sizeOf_lt_of_mem member
    simp only [template.sizeOf_spec, array.sizeOf_spec, object.sizeOf_spec, construct.sizeOf_spec]
    omega
  | parenthesized _ inner | chain _ inner | spread _ inner | member _ inner _ _
  | expressionStatement _ inner =>
    cases List.mem_singleton.mp member
    simp only [parenthesized.sizeOf_spec, chain.sizeOf_spec, spread.sizeOf_spec, Node.member.sizeOf_spec,
      expressionStatement.sizeOf_spec]
    omega
  | index _ owner key _ =>
    rw [index.sizeOf_spec]
    rcases List.mem_pair.mp member with rfl | rfl <;> omega
  | call _ callee types arguments _ =>
    rw [call.sizeOf_spec]
    rcases List.mem_cons.mp member with rfl | inside
    · omega
    · rcases List.mem_append.mp inside with inside | inside <;>
      · have smaller := List.sizeOf_lt_of_mem inside
        omega
  | element _ _ types attributes content =>
    rw [element.sizeOf_spec]
    simp only [children, List.mem_append] at member
    rcases member with (inside | inside) | inside <;>
    · have smaller := List.sizeOf_lt_of_mem inside
      omega

theorem inductionOnChildren {motive : Node → Prop}
    (step : ∀ node, (∀ child ∈ node.children, motive child) → motive node) (node : Node) : motive node :=
  step node fun child _ => inductionOnChildren step child
termination_by sizeOf node
decreasing_by exact sizeOf_lt_of_mem_children (by assumption)

theorem mem_preorder_of_child {node child below : Node} (member : child ∈ node.children)
    (inside : below ∈ child.preorder) : below ∈ node.preorder := by
  rw [preorder_eq]
  exact List.mem_cons_of_mem node (List.mem_flatMap.mpr ⟨child, member, inside⟩)

theorem self_mem_preorder (node : Node) : node ∈ node.preorder := by
  rw [preorder_eq]
  exact List.mem_cons_self

/-- What the parser makes sure of about the spans of a node, its children and the sites below it. -/
structure LaidOut (node : Node) : Prop where
  inside : ∀ child ∈ node.children, child.span.Within node.span
  sorted : node.children.Pairwise fun first last => first.span.Before last.span
  larger : node.site?.isSome → ∀ below ∈ node.children.flatMap preorder, below.site?.isSome →
    below.span ≠ node.span

instance (node : Node) : Decidable node.LaidOut :=
  decidable_of_iff
    ((∀ child ∈ node.children, child.span.Within node.span) ∧
      (node.children.Pairwise fun first last => first.span.Before last.span) ∧
      (node.site?.isSome → ∀ below ∈ node.children.flatMap preorder, below.site?.isSome →
        below.span ≠ node.span))
    ⟨fun ⟨inside, sorted, larger⟩ => ⟨inside, sorted, larger⟩,
      fun ⟨inside, sorted, larger⟩ => ⟨inside, sorted, larger⟩⟩

theorem within_of_mem_preorder (node : Node) :
    (∀ inner ∈ node.preorder, inner.LaidOut) → ∀ below ∈ node.preorder, below.span.Within node.span := by
  induction node using inductionOnChildren with
  | step node ih =>
    intro laid below member
    rw [preorder_eq] at member
    rcases List.mem_cons.mp member with rfl | member
    · exact Span.Within.refl _
    · obtain ⟨child, isChild, inside⟩ := List.mem_flatMap.mp member
      have childLaid : ∀ inner ∈ child.preorder, inner.LaidOut :=
        fun inner member => laid inner (mem_preorder_of_child isChild member)
      have first := ih child isChild childLaid below inside
      exact first.trans ((laid node (self_mem_preorder node)).inside child isChild)

def SitePrecedes (first last : Node) : Prop :=
  first.site?.isSome → last.site?.isSome → first.span.Precedes last.span

theorem pairwise_forest {nodes : List Node} (sorted : nodes.Pairwise fun first last => first.span.Before last.span)
    (laid : ∀ node ∈ nodes, ∀ inner ∈ node.preorder, inner.LaidOut)
    (each : ∀ node ∈ nodes, node.preorder.Pairwise SitePrecedes) :
    (nodes.flatMap preorder).Pairwise SitePrecedes := by
  rw [List.pairwise_flatMap]
  refine ⟨each, sorted.imp_of_mem ?_⟩
  intro first last firstMember lastMember before one oneInside other otherInside _ _
  exact .inl (before.mono (first.within_of_mem_preorder (laid first firstMember) one oneInside)
    (last.within_of_mem_preorder (laid last lastMember) other otherInside))

theorem pairwise_preorder (node : Node) :
    (∀ inner ∈ node.preorder, inner.LaidOut) → node.preorder.Pairwise SitePrecedes := by
  induction node using inductionOnChildren with
  | step node ih =>
    intro laid
    have here := laid node (self_mem_preorder node)
    have below (child : Node) (isChild : child ∈ node.children) :
        ∀ inner ∈ child.preorder, inner.LaidOut :=
      fun inner member => laid inner (mem_preorder_of_child isChild member)
    have inside := node.within_of_mem_preorder laid
    -- The node comes first and holds all that is below it; what is below it is a forest.
    rw [preorder_eq] at inside ⊢
    refine List.pairwise_cons.mpr ⟨?_, ?_⟩
    · intro last member site lastSite
      exact .inr ⟨inside last (List.mem_cons_of_mem node member), here.larger site last member lastSite⟩
    · exact pairwise_forest here.sorted below fun child isChild => ih child isChild (below child isChild)

end Node

namespace Program

structure LaidOut (program : Program) : Prop where
  sorted : program.body.Pairwise fun first last => first.span.Before last.span
  nodes : ∀ node ∈ program.nodes, node.LaidOut

instance (program : Program) : Decidable program.LaidOut :=
  decidable_of_iff
    ((program.body.Pairwise fun first last => first.span.Before last.span) ∧
      ∀ node ∈ program.nodes, node.LaidOut)
    ⟨fun ⟨sorted, nodes⟩ => ⟨sorted, nodes⟩, fun ⟨sorted, nodes⟩ => ⟨sorted, nodes⟩⟩

def HasSitesNonempty (program : Program) : Prop := ∀ site ∈ program.sites, site.span.start < site.span.stop

instance (program : Program) : Decidable program.HasSitesNonempty :=
  inferInstanceAs (Decidable (∀ _ ∈ _, _))

def HasSitesForward (program : Program) : Prop := ∀ site ∈ program.sites, site.span.start ≤ site.span.stop

instance (program : Program) : Decidable program.HasSitesForward :=
  inferInstanceAs (Decidable (∀ _ ∈ _, _))

theorem HasSitesNonempty.forward {program : Program} (nonempty : program.HasSitesNonempty) :
    program.HasSitesForward := fun site isSite => Nat.le_of_lt (nonempty site isSite)

/-- Of two sites in the order of a walk the first ends before the second starts or has it strictly inside. -/
theorem pairwise_sites {program : Program} (laid : program.LaidOut) :
    program.sites.Pairwise fun first last => first.span.Precedes last.span := by
  have inTree (node : Node) (member : node ∈ program.body) : ∀ inner ∈ node.preorder, inner.LaidOut :=
    fun inner inside => laid.nodes inner (List.mem_flatMap.mpr ⟨node, member, inside⟩)
  have nodes : program.nodes.Pairwise Node.SitePrecedes :=
    Node.pairwise_forest laid.sorted inTree fun node member => node.pairwise_preorder (inTree node member)
  rw [sites, List.pairwise_filterMap]
  apply nodes.imp
  intro first last precedes one oneFound other otherFound
  rw [Node.span_of_site? oneFound, Node.span_of_site? otherFound]
  exact precedes (by rw [oneFound]; rfl) (by rw [otherFound]; rfl)

end Program
end ScriptLint
