import Mathlib.Data.List.Basic
import ScriptLint.Lint.Runner

/-! What the dispatch of a registry holds and what one walk with it reports. The two lists of a dispatch keep
rules and their visitors in order, so that a dispatch reports at every site what the rules have to say there
one after the other. A dispatch without visitors reports nothing, and leaving out its walk changes nothing. -/

namespace ScriptLint

/-- A state that takes in items one after the other shows what each of them adds, in order. -/
theorem foldl_adds {S A B : Type} (shown : S → List B) (step : S → A → S) (added : A → List B)
    (adds : ∀ state item, shown (step state item) = shown state ++ added item) (items : List A)
    (state : S) : shown (items.foldl step state) = shown state ++ items.flatMap added := by
  induction items generalizing state with
  | nil => simp
  | cons item rest ih => rw [List.foldl_cons, ih, adds, List.flatMap_cons, List.append_assoc]

def Enabled.finding? {S : Type} (site : S) (enabled : Enabled S) : Option Finding :=
  (enabled.find site).map (enabled.rule.finding enabled.severity)

namespace Rule

theorem finding_eq (rule : Rule) (severity : Severity) (span : Span) :
    rule.finding severity span = ⟨rule.name, span, rule.message, some rule.docs, severity⟩ := rfl

def enabledCalls (config : Config) (rule : Rule) : List (Enabled CallSite) :=
  match (config.level rule.name).severity? with
  | none => []
  | some severity => rule.visitors.flatMap fun
    | .call find => [⟨rule, severity, find⟩]
    | .element _ => []

def enabledElements (config : Config) (elements : Bool) (rule : Rule) : List (Enabled ElementSite) :=
  match (config.level rule.name).severity? with
  | none => []
  | some severity => rule.visitors.flatMap fun
    | .call _ => []
    | .element find => if elements then [⟨rule, severity, find⟩] else []

/-- The findings of a rule at a site: nothing where it is off, and otherwise one for every visitor that
looks at the site and objects to a span. Visitors of elements only look where the dialect has elements. -/
def findingsAt (config : Config) (dialect : Dialect) (site : Site) (rule : Rule) : List Finding :=
  match (config.level rule.name).severity? with
  | none => []
  | some severity =>
    (rule.visitors.filter fun visitor => visitor.kind = .call || dialect.elements).filterMap fun visitor =>
      (visitor.find? site).map fun span => ⟨rule.name, span, rule.message, some rule.docs, severity⟩

theorem findingsAt_of_off {config : Config} {rule : Rule} (off : config.level rule.name = .off)
    (dialect : Dialect) (site : Site) : rule.findingsAt config dialect site = [] := by
  rw [findingsAt, off]
  rfl

/-- A rule reports what one of its visitors objects to, at the severity that its level stands for. -/
theorem mem_findingsAt_iff {config : Config} {dialect : Dialect} {site : Site} {rule : Rule} {finding : Finding} :
    finding ∈ rule.findingsAt config dialect site ↔
      ∃ severity, (config.level rule.name).severity? = some severity ∧
        ∃ visitor ∈ rule.visitors, (visitor.kind = .call ∨ dialect.elements = true) ∧
          ∃ span, visitor.find? site = some span ∧ rule.finding severity span = finding := by
  unfold findingsAt
  cases (config.level rule.name).severity? with
  | none => simp
  | some severity => simp [List.mem_filterMap, List.mem_filter, finding_eq, and_assoc]

theorem findingsAt_call (config : Config) (dialect : Dialect) (site : CallSite) (rule : Rule) :
    rule.findingsAt config dialect (.call site) =
      (rule.enabledCalls config).filterMap (Enabled.finding? site) := by
  unfold findingsAt enabledCalls
  cases (config.level rule.name).severity? with
  | none => rfl
  | some severity =>
    dsimp only
    induction rule.visitors with
    | nil => rfl
    | cons visitor rest ih =>
      rw [List.flatMap_cons, List.filterMap_append, ← ih]
      cases visitor with
      | call find =>
        cases found : find site <;> simp [Visitor.kind, Visitor.find?, Enabled.finding?, finding_eq, found]
      | element find => cases dialect.elements <;> simp [Visitor.kind, Visitor.find?]

theorem findingsAt_element (config : Config) (dialect : Dialect) (site : ElementSite) (rule : Rule) :
    rule.findingsAt config dialect (.element site) =
      (rule.enabledElements config dialect.elements).filterMap (Enabled.finding? site) := by
  unfold findingsAt enabledElements
  cases (config.level rule.name).severity? with
  | none => rfl
  | some severity =>
    dsimp only
    induction rule.visitors with
    | nil => rfl
    | cons visitor rest ih =>
      rw [List.flatMap_cons, List.filterMap_append, ← ih]
      cases visitor with
      | call find => simp [Visitor.kind, Visitor.find?]
      | element find =>
        cases dialect.elements <;> cases found : find site <;>
          simp [Visitor.kind, Visitor.find?, Enabled.finding?, finding_eq, found]

end Rule

namespace Dispatch

theorem addVisitor_calls (elements : Bool) (rule : Rule) (severity : Severity) (dispatch : Dispatch)
    (visitor : Visitor) :
    (addVisitor elements rule severity dispatch visitor).calls = dispatch.calls ++ match visitor with
      | .call find => [⟨rule, severity, find⟩]
      | .element _ => [] := by
  cases visitor with
  | call find => rfl
  | element find => cases elements <;> simp [addVisitor]

theorem addVisitor_elements (elements : Bool) (rule : Rule) (severity : Severity) (dispatch : Dispatch)
    (visitor : Visitor) :
    (addVisitor elements rule severity dispatch visitor).elements = dispatch.elements ++ match visitor with
      | .call _ => []
      | .element find => if elements then [⟨rule, severity, find⟩] else [] := by
  cases visitor with
  | call find => simp [addVisitor]
  | element find => cases elements <;> simp [addVisitor]

theorem addRule_calls (elements : Bool) (config : Config) (dispatch : Dispatch) (rule : Rule) :
    (addRule elements config dispatch rule).calls = dispatch.calls ++ rule.enabledCalls config := by
  unfold addRule Rule.enabledCalls
  cases (config.level rule.name).severity? with
  | none => simp
  | some severity => exact foldl_adds calls _ _ (addVisitor_calls elements rule severity) _ _

theorem addRule_elements (elements : Bool) (config : Config) (dispatch : Dispatch) (rule : Rule) :
    (addRule elements config dispatch rule).elements =
      dispatch.elements ++ rule.enabledElements config elements := by
  unfold addRule Rule.enabledElements
  cases (config.level rule.name).severity? with
  | none => simp
  | some severity =>
    exact foldl_adds Dispatch.elements _ _ (addVisitor_elements elements rule severity) _ _

theorem ofRegistry_calls (registry : Registry) (config : Config) (dialect : Dialect) :
    (ofRegistry registry config dialect).calls = registry.rules.flatMap (Rule.enabledCalls config) :=
  foldl_adds calls _ _ (addRule_calls dialect.elements config) _ _

theorem ofRegistry_elements (registry : Registry) (config : Config) (dialect : Dialect) :
    (ofRegistry registry config dialect).elements =
      registry.rules.flatMap (Rule.enabledElements config dialect.elements) :=
  foldl_adds Dispatch.elements _ _ (addRule_elements dialect.elements config) _ _

def findingsAt (dispatch : Dispatch) : Site → List Finding
  | .call site => dispatch.calls.filterMap (Enabled.finding? site)
  | .element site => dispatch.elements.filterMap (Enabled.finding? site)

theorem findingsAt_ofRegistry (registry : Registry) (config : Config) (dialect : Dialect) (site : Site) :
    (ofRegistry registry config dialect).findingsAt site =
      registry.rules.flatMap (Rule.findingsAt config dialect site) := by
  cases site with
  | call site =>
    rw [findingsAt, ofRegistry_calls, List.filterMap_flatMap]
    exact List.flatMap_congr fun rule _ => (rule.findingsAt_call config dialect site).symm
  | element site =>
    rw [findingsAt, ofRegistry_elements, List.filterMap_flatMap]
    exact List.flatMap_congr fun rule _ => (rule.findingsAt_element config dialect site).symm

theorem check_findings {S : Type} (site : S) (enabled : List (Enabled S)) (context : Context) :
    (check site enabled context).findings = context.findings ++ enabled.filterMap (Enabled.finding? site) := by
  rw [List.filterMap_eq_flatMap_toList]
  refine foldl_adds Context.findings _ _ ?_ enabled context
  intro context each
  cases found : each.find site <;> simp [Context.report, Enabled.finding?, found]

theorem enter_findings (dispatch : Dispatch) (node : Node) (context : Context) :
    (dispatch.enter node context).findings =
      context.findings ++ node.site?.toList.flatMap dispatch.findingsAt := by
  unfold enter
  cases node.site? with
  | none => simp
  | some site => cases site <;> simp [check_findings, findingsAt]

theorem walk_findings (dispatch : Dispatch) (program : Program) (context : Context) :
    (program.walk dispatch.enter context).findings =
      context.findings ++ program.sites.flatMap dispatch.findingsAt := by
  rw [Program.walk_eq_foldl, foldl_adds Context.findings _ _ fun context node =>
    dispatch.enter_findings node context]
  rw [Program.sites, List.filterMap_eq_flatMap_toList, List.flatMap_assoc]

theorem findingsAt_of_isEmpty {dispatch : Dispatch} (empty : dispatch.isEmpty = true) (site : Site) :
    dispatch.findingsAt site = [] := by
  simp only [isEmpty, Bool.and_eq_true, List.isEmpty_iff] at empty
  cases site <;> simp [findingsAt, empty]

end Dispatch

namespace Registry

/-- Whether the walk is left out does not show: a run reports what the walk does. -/
theorem run_eq_walk (registry : Registry) (config : Config) (source : String) (dialect : Dialect)
    (program : Program) :
    registry.run config source dialect program =
      ⟨(program.walk (Dispatch.ofRegistry registry config dialect).enter ⟨source, dialect, []⟩).findings⟩ := by
  unfold run
  dsimp only
  split
  · rename_i empty
    rw [Dispatch.walk_findings, List.nil_append, List.flatMap_congr fun site _ =>
      Dispatch.findingsAt_of_isEmpty empty site]
    simp
  · rfl

theorem run_findings (registry : Registry) (config : Config) (source : String) (dialect : Dialect)
    (program : Program) :
    (registry.run config source dialect program).findings =
      program.sites.flatMap fun site => registry.rules.flatMap (Rule.findingsAt config dialect site) := by
  rw [run_eq_walk, Dispatch.walk_findings, List.nil_append]
  apply List.flatMap_congr
  intro site _
  exact Dispatch.findingsAt_ofRegistry registry config dialect site

/-- One walk reports what nested loops over the sites, the rules and their visitors report, also where no
rule is enabled and the walk is left out. -/
theorem run_eq_nested_loops (registry : Registry) (config : Config) (source : String) (dialect : Dialect)
    (program : Program) :
    registry.run config source dialect program =
        ⟨program.sites.flatMap fun site => registry.rules.flatMap (Rule.findingsAt config dialect site)⟩ ∧
      registry.run config source dialect program =
        ⟨(program.walk (Dispatch.ofRegistry registry config dialect).enter ⟨source, dialect, []⟩).findings⟩ := by
  constructor
  · exact congrArg Report.mk (registry.run_findings config source dialect program)
  · exact registry.run_eq_walk config source dialect program

end Registry
end ScriptLint
