import ScriptLint.Proofs.Dispatch
import ScriptLint.Syntax.Program

/-! Visitors of elements may be left out where there are no elements. A dialect without elements runs like one
with elements in which all rules have lost their visitors of elements, and a program without elements gives the
same findings in every dialect. So the plain way to lint a program, as one with elements, is right for both. -/

namespace ScriptLint

def Rule.onlyCalls (rule : Rule) : Rule :=
  { rule with visitors := rule.visitors.filter fun visitor => visitor.kind = .call }

def Registry.onlyCalls (registry : Registry) : Registry := ofRules (registry.rules.map Rule.onlyCalls)

def Program.WithoutElements (program : Program) : Prop := ∀ node ∈ program.nodes, node.elementSite? = none

instance (program : Program) : Decidable program.WithoutElements :=
  inferInstanceAs (Decidable (∀ _ ∈ _, _))

theorem Program.call_of_mem_sites {program : Program} (without : program.WithoutElements) {site : Site}
    (member : site ∈ program.sites) : ∃ call, site = .call call := by
  obtain ⟨node, inTree, found⟩ := List.mem_filterMap.mp member
  cases isCall : node.callSite? with
  | some call => exact ⟨call, by simpa [Node.site?, isCall] using found.symm⟩
  | none => simp [Node.site?, isCall, without node inTree] at found

namespace Rule

theorem findingsAt_onlyCalls {plain : Dialect} (without : plain.elements = false) (other : Dialect)
    (config : Config) (site : Site) (rule : Rule) :
    rule.onlyCalls.findingsAt config other site = rule.findingsAt config plain site := by
  unfold findingsAt onlyCalls
  dsimp only
  cases (config.level rule.name).severity? with
  | none => rfl
  | some severity =>
    have kept (visitor : Visitor) :
        ((decide (visitor.kind = .call) || other.elements) && decide (visitor.kind = .call)) =
          (decide (visitor.kind = .call) || plain.elements) := by
      rw [without]
      cases visitor.kind <;> simp
    simp only [List.filter_filter, kept]

theorem findingsAt_of_elements {one other : Dialect} (same : one.elements = other.elements) (config : Config)
    (site : Site) (rule : Rule) : rule.findingsAt config one site = rule.findingsAt config other site := by
  unfold findingsAt
  rw [same]

end Rule

namespace Registry

variable (registry : Registry) (config : Config) (source : String) (program : Program)

/-- Rules that say the same at every site of a program report the same. -/
theorem run_congr {registry other : Registry} {one two : Dialect}
    (same : ∀ site ∈ program.sites,
      registry.rules.flatMap (Rule.findingsAt config one site) =
        other.rules.flatMap (Rule.findingsAt config two site)) :
    registry.run config source one program = other.run config source two program := by
  have findings : (registry.run config source one program).findings =
      (other.run config source two program).findings := by
    rw [run_findings, run_findings]
    exact List.flatMap_congr same
  exact congrArg Report.mk findings

theorem run_onlyCalls {plain : Dialect} (without : plain.elements = false) (other : Dialect) :
    registry.onlyCalls.run config source other program = registry.run config source plain program := by
  apply run_congr
  intro site _
  change (registry.rules.map Rule.onlyCalls).flatMap _ = _
  rw [List.flatMap_map]
  exact List.flatMap_congr fun rule _ => rule.findingsAt_onlyCalls without other config site

theorem run_of_elements {one other : Dialect} (same : one.elements = other.elements) :
    registry.run config source one program = registry.run config source other program := by
  apply run_congr
  intro site _
  exact List.flatMap_congr fun rule _ => rule.findingsAt_of_elements same config site

theorem run_of_withoutElements {program : Program} (without : program.WithoutElements) (one other : Dialect) :
    registry.run config source one program = registry.run config source other program := by
  apply run_congr
  intro site member
  obtain ⟨call, rfl⟩ := Program.call_of_mem_sites without member
  apply List.flatMap_congr
  intro rule _
  rw [Rule.findingsAt_call, Rule.findingsAt_call]

end Registry

/-- A dialect without elements reports what any other, also one with elements, reports without the visitors
of elements. All dialects report alike on a program without elements. So linting a program as one with elements
is right in the dialects that have them, and in every dialect for a program without them. -/
theorem element_visitors_skipped (registry : Registry) (config : Config) (source : String) (program : Program) :
    (∀ plain other : Dialect, plain.elements = false →
      registry.run config source plain program = registry.onlyCalls.run config source other program) ∧
    (program.WithoutElements → ∀ one other : Dialect,
      registry.run config source one program = registry.run config source other program) ∧
    ∀ dialect : Dialect, dialect.elements = true ∨ program.WithoutElements →
      program.lint source = program.lintWith .default source dialect := by
  refine ⟨?_, ?_, ?_⟩
  · intro plain other without
    exact (registry.run_onlyCalls config source program without other).symm
  · intro without one other
    exact registry.run_of_withoutElements config source without one other
  · rintro dialect (elements | without)
    · have same : Dialect.untyped.elements = dialect.elements := elements.symm
      exact Registry.builtin.run_of_elements .default source program same
    · exact Registry.builtin.run_of_withoutElements .default source without .untyped dialect

theorem element_visitors_skipped_two_findings :
    ∃ program, Program.ofText (.ofPath "a.js") "a.apply(1)" = .ok program ∧
      (Dialect.ofPath "a.js").elements = false ∧ program.WithoutElements ∧
      Registry.builtin.run .default "a.apply(1)" (.ofPath "a.js") program =
        Registry.builtin.onlyCalls.run .default "a.apply(1)" .untyped program ∧
      program.lint "a.apply(1)" = program.lintWith .default "a.apply(1)" (.ofPath "a.js") ∧
      (program.lint "a.apply(1)").findings.length = 2 := by
  have checked : (Program.ofText (.ofPath "a.js") "a.apply(1)").toOption.any
      (fun program => decide (program.WithoutElements ∧
        (program.lint "a.apply(1)").findings.length = 2)) = true := by decide +kernel
  obtain ⟨program, parsed, fits⟩ := exists_ok_of_any checked
  obtain ⟨without, two⟩ := of_decide_eq_true fits
  have plain : (Dialect.ofPath "a.js").elements = false := by decide +kernel
  obtain ⟨onlyCalls, -, lint⟩ := element_visitors_skipped .builtin .default "a.apply(1)" program
  exact ⟨program, parsed, plain, without, onlyCalls _ .untyped plain, lint _ (.inr without), two⟩

end ScriptLint
