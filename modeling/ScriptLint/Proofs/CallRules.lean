import Mathlib.Algebra.Order.BigOperators.Group.List
import Mathlib.Algebra.Order.Group.Nat
import ScriptLint.Proofs.Independence
import ScriptLint.Syntax.Program

/-! The two rules about calls of `apply` report together. Where both are on, entering a call of `apply` reports
the literal that is its first argument, if it is one, and then the call itself, and nothing that is below the
call is entered in between. So every finding about a literal is followed at once by the one about its call. -/

namespace ScriptLint

theorem getElem?_flatMap_eq_some_iff {A B : Type} {items : List A} {given : A → List B} {index : Nat}
    {found : B} :
    (items.flatMap given)[index]? = some found ↔
      ∃ before item after offset, items = before ++ item :: after ∧
        index = (before.flatMap given).length + offset ∧ (given item)[offset]? = some found := by
  induction items generalizing index with
  | nil => simp
  | cons item rest ih =>
    rw [List.flatMap_cons, List.getElem?_append]
    constructor
    · intro stands
      split at stands
      · exact ⟨[], item, rest, index, rfl, by simp, stands⟩
      · obtain ⟨before, other, after, offset, parts, place, inside⟩ := ih.mp stands
        refine ⟨item :: before, other, after, offset, by rw [parts, List.cons_append], ?_, inside⟩
        rw [List.flatMap_cons, List.length_append]
        omega
    · rintro ⟨before, other, after, offset, parts, rfl, inside⟩
      have bound : offset < (given other).length := (List.getElem?_eq_some_iff.mp inside).1
      cases before with
      | nil =>
        obtain ⟨rfl, rfl⟩ := List.cons.inj parts
        simpa [bound] using inside
      | cons first before =>
        obtain ⟨rfl, rfl⟩ := List.cons.inj parts
        rw [List.flatMap_cons, List.length_append, if_neg (by omega)]
        exact ih.mpr ⟨before, other, after, offset, rfl, by omega, inside⟩

/-- What may come first stands in front, and the last entry behind it. -/
theorem getElem?_toList_append_last {A B : Type} {first : Option A} {entry : A → B} {last found : B}
    {offset : Nat} :
    (first.toList.map entry ++ [last])[offset]? = some found ↔
      (∃ item, first = some item ∧ offset = 0 ∧ entry item = found) ∨
        (offset = first.toList.length ∧ last = found) := by
  cases first with
  | none => simp [List.getElem?_singleton]
  | some item =>
    match offset with
    | 0 => simp
    | offset + 1 => simp [List.getElem?_singleton]

/-- A finding with the node on whose entry it is reported and the number of that node in the order of a walk. -/
structure Reported where
  place : Nat
  node : Node
  finding : Finding

namespace CallSite

def StartsWithLiteral (site : CallSite) : Prop :=
  ∃ argument rest, site.arguments = argument :: rest ∧ (∀ span inner, argument ≠ .spread span inner) ∧
    argument.isLiteralValue = true

theorem firstArgument?_eq_some_iff (site : CallSite) (argument : Node) :
    site.firstArgument? = some argument ↔
      ∃ rest, site.arguments = argument :: rest ∧ ∀ span inner, argument ≠ .spread span inner := by
  unfold firstArgument?
  split
  · simp_all
  · rename_i spreads
    rw [spreads]
    simp only [reduceCtorEq, false_iff, not_exists, not_and, not_forall, not_not]
    rintro rest same
    exact ⟨_, _, (List.cons.inj same).1.symm⟩
  · rename_i first rest plain parts
    rw [parts]
    constructor
    · intro same
      cases Option.some.inj same
      exact ⟨rest, rfl, plain⟩
    · rintro ⟨_, same, _⟩
      exact congrArg some (List.cons.inj same).1

end CallSite

theorem NoFunctionApply.find_of_apply {site : CallSite} (named : site.memberName? = some "apply") :
    NoFunctionApply.find site = some site.span := if_pos named

theorem NoLiteral.find_eq_some_iff (site : CallSite) (span : Span) :
    NoLiteral.find site = some span ↔ site.memberName? = some "apply" ∧
      ∃ argument rest, site.arguments = argument :: rest ∧ (∀ span inner, argument ≠ .spread span inner) ∧
        argument.isLiteralValue = true ∧ argument.span = span := by
  unfold find
  simp only [Option.ite_none_right_eq_some, Option.bind_eq_some_iff, CallSite.firstArgument?_eq_some_iff,
    Option.some.injEq]
  refine and_congr_right fun _ => exists_congr fun argument => ?_
  constructor
  · rintro ⟨⟨rest, parts, plain⟩, literal, same⟩
    exact ⟨rest, parts, plain, literal, same⟩
  · rintro ⟨rest, parts, plain, literal, same⟩
    exact ⟨⟨rest, parts, plain⟩, literal, same⟩

theorem NoLiteral.find_isSome_iff {site : CallSite} (named : site.memberName? = some "apply") :
    (∃ span, NoLiteral.find site = some span) ↔ site.StartsWithLiteral := by
  simp only [NoLiteral.find_eq_some_iff, CallSite.StartsWithLiteral]
  constructor
  · rintro ⟨_, -, argument, rest, parts, plain, literal, -⟩
    exact ⟨argument, rest, parts, plain, literal⟩
  · rintro ⟨argument, rest, parts, plain, literal⟩
    exact ⟨argument.span, named, argument, rest, parts, plain, literal, rfl⟩

namespace Registry

theorem names_differ : NoLiteral.rule.name ≠ NoFunctionApply.rule.name := by decide

def reportedAt (registry : Registry) (config : Config) (source : String) (dialect : Dialect) (node : Node) :
    List Finding :=
  ((Dispatch.ofRegistry registry config dialect).enter node ⟨source, dialect, []⟩).findings

def reported (registry : Registry) (config : Config) (source : String) (dialect : Dialect) (program : Program) :
    List Reported :=
  program.nodes.zipIdx.flatMap fun entered =>
    (registry.reportedAt config source dialect entered.1).map (Reported.mk entered.2 entered.1)

section Entries

variable (registry : Registry) (config : Config) (source : String) (dialect : Dialect)

theorem reportedAt_eq (node : Node) :
    registry.reportedAt config source dialect node =
      node.site?.toList.flatMap fun site => registry.rules.flatMap (Rule.findingsAt config dialect site) := by
  rw [reportedAt, Dispatch.enter_findings, List.nil_append]
  exact List.flatMap_congr fun site _ => Dispatch.findingsAt_ofRegistry registry config dialect site

theorem run_eq_flatMap_reportedAt (program : Program) :
    (registry.run config source dialect program).findings =
      program.nodes.flatMap (registry.reportedAt config source dialect) := by
  rw [run_findings, Program.sites, List.filterMap_eq_flatMap_toList, List.flatMap_assoc]
  exact List.flatMap_congr fun node _ => (registry.reportedAt_eq config source dialect node).symm

theorem findings_of_reported (program : Program) :
    (registry.reported config source dialect program).map Reported.finding =
      (registry.run config source dialect program).findings := by
  rw [run_eq_flatMap_reportedAt, ← List.zipIdx_map_fst 0 program.nodes, List.flatMap_map, reported,
    List.map_flatMap]
  simp only [List.map_map, Function.comp_def, List.map_id']

theorem node_of_reported {program : Program} {each : Reported}
    (member : each ∈ registry.reported config source dialect program) :
    program.nodes[each.place]? = some each.node := by
  obtain ⟨⟨node, place⟩, entered, inside⟩ := List.mem_flatMap.mp member
  obtain ⟨finding, -, rfl⟩ := List.mem_map.mp inside
  exact List.mem_zipIdx_iff_getElem?.mp entered

theorem getElem?_reported_iff {program : Program} {index place : Nat} {node : Node} {finding : Finding} :
    (registry.reported config source dialect program)[index]? = some ⟨place, node, finding⟩ ↔
      ∃ before after offset, program.nodes.zipIdx = before ++ (node, place) :: after ∧
        index = (before.flatMap fun entered =>
          (registry.reportedAt config source dialect entered.1).map
            (Reported.mk entered.2 entered.1)).length + offset ∧
        (registry.reportedAt config source dialect node)[offset]? = some finding := by
  rw [reported, getElem?_flatMap_eq_some_iff]
  constructor
  · rintro ⟨before, ⟨other, number⟩, after, offset, parts, rfl, inside⟩
    rw [List.getElem?_map] at inside
    obtain ⟨given, stands, same⟩ := Option.map_eq_some_iff.mp inside
    cases same
    exact ⟨before, after, offset, parts, rfl, stands⟩
  · rintro ⟨before, after, offset, parts, rfl, stands⟩
    refine ⟨before, (node, place), after, offset, parts, rfl, ?_⟩
    rw [List.getElem?_map, stands, Option.map_some]

end Entries

theorem rule_of_element_finding {config : Config} {dialect : Dialect} {site : ElementSite} {finding : Finding}
    (reported : finding ∈ builtin.rules.flatMap (Rule.findingsAt config dialect (.element site))) :
    finding.rule = NoButton.rule.name := by
  obtain ⟨rule, known, inside⟩ := List.mem_flatMap.mp reported
  obtain ⟨severity, -, visitor, visits, -, span, found, rfl⟩ := Rule.mem_findingsAt_iff.mp inside
  have rules : builtin.rules = [NoLiteral.rule, NoFunctionApply.rule, NoButton.rule] := rfl
  simp only [rules, List.mem_cons, List.not_mem_nil, or_false] at known
  -- The rules about calls have no visitor of elements, so that they report nothing at one.
  rcases known with rfl | rfl | rfl
  · cases List.mem_singleton.mp visits
    contradiction
  · cases List.mem_singleton.mp visits
    contradiction
  · rfl

section Calls

variable {config : Config} {literal applied : Severity}
  (literalOn : (config.level NoLiteral.rule.name).severity? = some literal)
  (applyOn : (config.level NoFunctionApply.rule.name).severity? = some applied)
include literalOn applyOn

theorem findingsAt_call_of_enabled (dialect : Dialect) (site : CallSite) :
    builtin.rules.flatMap (Rule.findingsAt config dialect (.call site)) =
      (NoLiteral.find site).toList.map (NoLiteral.rule.finding literal) ++
        (NoFunctionApply.find site).toList.map (NoFunctionApply.rule.finding applied) := by
  have rules : builtin.rules = [NoLiteral.rule, NoFunctionApply.rule, NoButton.rule] := rfl
  have literals : NoLiteral.rule.enabledCalls config = [⟨NoLiteral.rule, literal, NoLiteral.find⟩] := by
    rw [Rule.enabledCalls, literalOn]
    rfl
  have calls : NoFunctionApply.rule.enabledCalls config =
      [⟨NoFunctionApply.rule, applied, NoFunctionApply.find⟩] := by
    rw [Rule.enabledCalls, applyOn]
    rfl
  have buttons : NoButton.rule.enabledCalls config = [] := by
    unfold Rule.enabledCalls
    split <;> rfl
  simp only [rules, List.flatMap_cons, List.flatMap_nil, Rule.findingsAt_call, literals, calls, buttons,
    List.filterMap_cons, List.filterMap_nil, Enabled.finding?, List.append_nil]
  cases NoLiteral.find site <;> cases NoFunctionApply.find site <;> rfl

/-- What entering a node can report about calls: the first argument of a call of `apply`, if it is a literal, and
then the call. -/
theorem reportedAt_cases (source : String) (dialect : Dialect) (node : Node) :
    (∀ finding ∈ builtin.reportedAt config source dialect node,
        finding.rule ≠ NoLiteral.rule.name ∧ finding.rule ≠ NoFunctionApply.rule.name) ∨
      ∃ site, node.callSite? = some site ∧ site.memberName? = some "apply" ∧
        builtin.reportedAt config source dialect node =
          (NoLiteral.find site).toList.map (NoLiteral.rule.finding literal) ++
            [NoFunctionApply.rule.finding applied site.span] := by
  rw [reportedAt_eq]
  cases found : node.callSite? with
  | some site =>
    have here : node.site? = some (.call site) := by rw [Node.site?, found]
    rw [here, Option.toList_some, List.flatMap_singleton, findingsAt_call_of_enabled literalOn applyOn]
    by_cases named : site.memberName? = some "apply"
    · exact .inr ⟨site, rfl, named, by rw [NoFunctionApply.find_of_apply named]; rfl⟩
    · refine .inl ?_
      simp [NoLiteral.find, NoFunctionApply.find, named]
  | none =>
    refine .inl ?_
    intro finding member
    obtain ⟨site, isSite, inside⟩ := List.mem_flatMap.mp member
    rw [Option.mem_toList, Node.site?, found] at isSite
    obtain ⟨element, -, rfl⟩ := Option.map_eq_some_iff.mp isSite
    rw [rule_of_element_finding inside]
    decide

/-- The finding about a literal is the first of its call, and the one about the call is next. -/
theorem reportedAt_of_literal {source : String} {dialect : Dialect} {node : Node} {offset : Nat}
    {finding : Finding}
    (stands : (builtin.reportedAt config source dialect node)[offset]? = some finding)
    (named : finding.rule = NoLiteral.rule.name) :
    ∃ site, node.callSite? = some site ∧ NoLiteral.find site = some finding.span ∧
      (builtin.reportedAt config source dialect node)[offset + 1]? =
        some (NoFunctionApply.rule.finding applied site.span) := by
  rcases reportedAt_cases literalOn applyOn source dialect node with others | ⟨site, isCall, -, entry⟩
  · exact absurd named (others finding (List.mem_of_getElem? stands)).1
  · rw [entry] at stands ⊢
    rcases getElem?_toList_append_last.mp stands with ⟨span, found, rfl, rfl⟩ | ⟨-, rfl⟩
    · refine ⟨site, isCall, found, getElem?_toList_append_last.mpr (.inr ⟨?_, rfl⟩)⟩
      rw [found, Option.toList_some, List.length_singleton]
    · exact absurd named names_differ.symm

/-- The finding about a call is the only one of its call, or the one about its literal comes right before. -/
theorem reportedAt_of_apply {source : String} {dialect : Dialect} {node : Node} {offset : Nat}
    {finding : Finding}
    (stands : (builtin.reportedAt config source dialect node)[offset]? = some finding)
    (named : finding.rule = NoFunctionApply.rule.name) :
    ∃ site, node.callSite? = some site ∧ site.memberName? = some "apply" ∧
      finding = NoFunctionApply.rule.finding applied site.span ∧
      ∀ span, NoLiteral.find site = some span → ∃ before, offset = before + 1 ∧
        (builtin.reportedAt config source dialect node)[before]? =
          some (NoLiteral.rule.finding literal span) := by
  rcases reportedAt_cases literalOn applyOn source dialect node with others | ⟨site, isCall, isApply, entry⟩
  · exact absurd named (others finding (List.mem_of_getElem? stands)).2
  · rw [entry] at stands ⊢
    rcases getElem?_toList_append_last.mp stands with ⟨span, found, rfl, rfl⟩ | ⟨rfl, rfl⟩
    · exact absurd named names_differ
    · refine ⟨site, isCall, isApply, rfl, fun span found => ⟨0, ?_, ?_⟩⟩
      · rw [found, Option.toList_some, List.length_singleton]
      · exact getElem?_toList_append_last.mpr (.inl ⟨span, found, rfl, rfl⟩)

theorem count_literal_le_count_apply (source : String) (dialect : Dialect) (node : Node) :
    (builtin.reportedAt config source dialect node).countP (fun finding => finding.rule = NoLiteral.rule.name) ≤
      (builtin.reportedAt config source dialect node).countP fun finding =>
        finding.rule = NoFunctionApply.rule.name := by
  rcases reportedAt_cases literalOn applyOn source dialect node with others | ⟨site, -, -, entry⟩
  · rw [List.countP_eq_zero.mpr fun finding member => by simpa using (others finding member).1]
    exact Nat.zero_le _
  · rw [entry]
    cases NoLiteral.find site <;> simp [Rule.finding_eq, names_differ, names_differ.symm]

variable {source : String} {dialect : Dialect} {program : Program} {index place : Nat} {node : Node}
  {finding : Finding}

theorem reported_after_literal
    (stands : (builtin.reported config source dialect program)[index]? = some ⟨place, node, finding⟩)
    (named : finding.rule = NoLiteral.rule.name) :
    ∃ site, node.callSite? = some site ∧ NoLiteral.find site = some finding.span ∧
      (builtin.reported config source dialect program)[index + 1]? =
        some ⟨place, node, NoFunctionApply.rule.finding applied site.span⟩ := by
  obtain ⟨before, after, offset, parts, rfl, here⟩ := (getElem?_reported_iff ..).mp stands
  obtain ⟨site, isCall, found, next⟩ := reportedAt_of_literal literalOn applyOn here named
  exact ⟨site, isCall, found, (getElem?_reported_iff ..).mpr ⟨before, after, offset + 1, parts, rfl, next⟩⟩

theorem reported_before_apply_iff
    (stands : (builtin.reported config source dialect program)[index]? = some ⟨place, node, finding⟩)
    (named : finding.rule = NoFunctionApply.rule.name) :
    ∃ site, node.callSite? = some site ∧ finding.span = site.span ∧
      ((∃ before previous, index = before + 1 ∧
          (builtin.reported config source dialect program)[before]? = some ⟨place, node, previous⟩ ∧
          previous.rule = NoLiteral.rule.name) ↔ site.StartsWithLiteral) := by
  obtain ⟨before, after, offset, parts, rfl, here⟩ := (getElem?_reported_iff ..).mp stands
  obtain ⟨site, isCall, isApply, rfl, literals⟩ := reportedAt_of_apply literalOn applyOn here named
  refine ⟨site, isCall, rfl, ?_⟩
  rw [← NoLiteral.find_isSome_iff isApply]
  constructor
  · rintro ⟨_, previous, -, earlier, literalNamed⟩
    obtain ⟨other, otherCall, found, -⟩ := reported_after_literal literalOn applyOn earlier literalNamed
    cases Option.some.inj (isCall.symm.trans otherCall)
    exact ⟨_, found⟩
  · rintro ⟨span, found⟩
    obtain ⟨earlier, rfl, previous⟩ := literals span found
    exact ⟨_, _, rfl, (getElem?_reported_iff ..).mpr ⟨before, after, earlier, parts, rfl, previous⟩, rfl⟩

end Calls
end Registry

def Program.HasArgumentsInside (program : Program) : Prop :=
  ∀ node ∈ program.nodes, ∀ site ∈ node.callSite?, ∀ argument ∈ site.arguments, argument.span.Within site.span

instance (program : Program) : Decidable program.HasArgumentsInside :=
  inferInstanceAs (Decidable (∀ _ ∈ _, _))

theorem Program.HasArgumentsInside.within_of_find {program : Program} (inside : program.HasArgumentsInside)
    {node : Node} (isNode : node ∈ program.nodes) {site : CallSite} (isCall : node.callSite? = some site)
    {span : Span} (found : NoLiteral.find site = some span) : span.Within site.span := by
  obtain ⟨-, argument, rest, arguments, -, -, rfl⟩ := (NoLiteral.find_eq_some_iff site span).mp found
  exact inside node isNode site isCall argument (arguments ▸ List.mem_cons_self)

/-- Where both rules about calls are on, every finding about a literal is followed at once by the finding about
its call, whose span holds its own. The finding about a call has one about a literal of the same call right
before it if and only if the call starts with a literal, so that there are no more findings about literals than
about calls. -/
theorem callFindings_in_pairs {program : Program} (inside : program.HasArgumentsInside) {config : Config}
    (literalOn : config.isEnabled NoLiteral.rule.name = true)
    (applyOn : config.isEnabled NoFunctionApply.rule.name = true) (source : String) (dialect : Dialect) :
    let reported := Registry.builtin.reported config source dialect program
    let findings := (Registry.builtin.run config source dialect program).findings
    (reported.map Reported.finding = findings ∧
      ∀ each ∈ reported, program.nodes[each.place]? = some each.node) ∧
    (∀ (index place : Nat) (node : Node) (finding : Finding), reported[index]? = some ⟨place, node, finding⟩ →
      finding.rule = NoLiteral.rule.name →
      ∃ (site : CallSite) (next : Finding), node.callSite? = some site ∧
        reported[index + 1]? = some ⟨place, node, next⟩ ∧ next.rule = NoFunctionApply.rule.name ∧
        next.span = site.span ∧ finding.span.Within next.span) ∧
    (∀ (index place : Nat) (node : Node) (finding : Finding), reported[index]? = some ⟨place, node, finding⟩ →
      finding.rule = NoFunctionApply.rule.name →
      ∃ site : CallSite, node.callSite? = some site ∧ finding.span = site.span ∧
        ((∃ (before : Nat) (previous : Finding), index = before + 1 ∧
          reported[before]? = some ⟨place, node, previous⟩ ∧ previous.rule = NoLiteral.rule.name) ↔
          site.StartsWithLiteral)) ∧
    findings.countP (fun finding => finding.rule = NoLiteral.rule.name) ≤
      findings.countP fun finding => finding.rule = NoFunctionApply.rule.name := by
  obtain ⟨literal, literalOn⟩ := Level.isEnabled_iff.mp literalOn
  obtain ⟨applied, applyOn⟩ := Level.isEnabled_iff.mp applyOn
  refine ⟨⟨Registry.findings_of_reported .., ?_⟩, ?_, ?_, ?_⟩
  · intro each member
    exact Registry.node_of_reported _ _ _ _ member
  · intro index place node finding stands named
    obtain ⟨site, isCall, found, follows⟩ := Registry.reported_after_literal literalOn applyOn stands named
    have isNode : node ∈ program.nodes :=
      List.mem_of_getElem? (Registry.node_of_reported _ _ _ _ (List.mem_of_getElem? stands))
    exact ⟨site, _, isCall, follows, rfl, rfl, inside.within_of_find isNode isCall found⟩
  · intro index place node finding stands named
    exact Registry.reported_before_apply_iff literalOn applyOn stands named
  · rw [Registry.run_eq_flatMap_reportedAt, List.countP_flatMap, List.countP_flatMap]
    exact List.sum_le_sum fun node _ =>
      Registry.count_literal_le_count_apply literalOn applyOn source dialect node

theorem callFindings_in_pairs_nested :
    ∃ program, Program.ofText (.ofPath "a.js") "a.apply(\x7b m: b.apply(1) \x7d, c)" = .ok program ∧
      program.HasArgumentsInside ∧
      ∃ (place : Nat) (node : Node) (finding next : Finding),
        (Registry.builtin.reported .default "" .untyped program)[2]? = some ⟨place, node, finding⟩ ∧
        (Registry.builtin.reported .default "" .untyped program)[3]? = some ⟨place, node, next⟩ ∧
        finding.rule = NoLiteral.rule.name ∧ next.rule = NoFunctionApply.rule.name ∧
        finding.span.Within next.span := by
  have checked : (Program.ofText (.ofPath "a.js") "a.apply(\x7b m: b.apply(1) \x7d, c)").toOption.any
      (fun program => decide (program.HasArgumentsInside ∧
        (Registry.builtin.reported .default "" .untyped program)[2]?.any fun each =>
          each.finding.rule = NoLiteral.rule.name)) = true := by decide +kernel
  obtain ⟨program, parsed, fits⟩ := exists_ok_of_any checked
  obtain ⟨inside, third⟩ := of_decide_eq_true fits
  obtain ⟨⟨place, node, finding⟩, stands, named⟩ := (Option.any_eq_true _ _).mp third
  have literalOn : Config.default.isEnabled NoLiteral.rule.name = true := by decide +kernel
  obtain ⟨-, pairs, -⟩ := callFindings_in_pairs inside literalOn (by decide +kernel) "" .untyped
  have named : finding.rule = NoLiteral.rule.name := by simpa using named
  obtain ⟨site, next, -, follows, nextNamed, -, within⟩ := pairs 2 place node finding stands named
  exact ⟨program, parsed, inside, place, node, finding, next, stands, follows, named, nextNamed, within⟩

end ScriptLint
