import Mathlib.Data.List.Flatten
import ScriptLint.Lint.File
import ScriptLint.Proofs.Independence
import ScriptLint.Proofs.Layout
import ScriptLint.Proofs.PositionOrder

/-! Reports follow the source. The findings whose span is a whole site come in the order of the sites, so that
of two of them the first ends before the second starts or has it strictly inside. Where calls and elements take up
text no two have the same span, and neither their starts nor their lines and columns go back. -/

namespace ScriptLint

def Finding.ofWholeSite (finding : Finding) : Bool :=
  finding.rule = NoFunctionApply.rule.name || finding.rule = NoButton.rule.name

def Report.siteFindings (report : Report) : List Finding := report.findings.filter Finding.ofWholeSite

theorem Rule.spans_findingsAt_sublist (config : Config) (dialect : Dialect) (site : Site) (rule : Rule) :
    ((rule.findingsAt config dialect site).map Finding.span).Sublist
      (rule.visitors.filterMap fun visitor => visitor.find? site) := by
  unfold findingsAt
  cases (config.level rule.name).severity? with
  | none => exact List.nil_sublist _
  | some severity =>
    simp only [List.map_filterMap, Option.map_map, Function.comp_def, Option.map_id']
    exact List.filter_sublist.filterMap _

theorem wholeSite_spans_sublist (site : Site) :
    ([NoFunctionApply.rule, NoButton.rule].flatMap fun rule =>
      rule.visitors.filterMap fun visitor => visitor.find? site).Sublist [site.span] := by
  cases site with
  | call site =>
    by_cases named : site.memberName? = some "apply" <;>
      simp [NoFunctionApply.rule, NoFunctionApply.find, NoButton.rule, Visitor.find?, Site.span, named]
  | element site =>
    by_cases named : site.intrinsicName? = some "button" <;>
      simp [NoFunctionApply.rule, NoButton.rule, NoButton.find, Visitor.find?, Site.span, named]

namespace Registry

/-- The spans of the findings of whole sites are those of sites, in the order of a walk. -/
theorem siteFindings_sublist (config : Config) (source : String) (dialect : Dialect) (program : Program) :
    ((builtin.run config source dialect program).siteFindings.map Finding.span).Sublist
      (program.sites.map Site.span) := by
  rw [Report.siteFindings, run_findings, List.filter_flatMap, List.map_flatMap, List.map_eq_flatMap]
  apply List.Sublist.flatMap_right
  intro site _
  have decided (rule : Rule) (finding : Finding) (reported : finding ∈ rule.findingsAt config dialect site) :
      finding.ofWholeSite =
        (decide (rule.name = NoFunctionApply.rule.name) || decide (rule.name = NoButton.rule.name)) := by
    rw [Finding.ofWholeSite, Rule.name_of_findingsAt reported]
  have chosen : builtin.rules.filter (fun rule =>
      decide (rule.name = NoFunctionApply.rule.name) || decide (rule.name = NoButton.rule.name)) =
        [NoFunctionApply.rule, NoButton.rule] := by rfl
  rw [filter_flatMap_decided _ decided, chosen, List.map_flatMap]
  refine List.Sublist.trans ?_ (wholeSite_spans_sublist site)
  exact List.Sublist.flatMap_right _ fun rule _ => rule.spans_findingsAt_sublist config dialect site

section Order

variable {program : Program} (config : Config) (source : String) (dialect : Dialect)

theorem siteFindings_precede (laid : program.LaidOut) :
    (builtin.run config source dialect program).siteFindings.Pairwise fun first last =>
      first.span.Precedes last.span := by
  have sites : (program.sites.map Site.span).Pairwise Span.Precedes :=
    List.pairwise_map.mpr (Program.pairwise_sites laid)
  exact List.pairwise_map.mp (sites.sublist (siteFindings_sublist config source dialect program))

theorem exists_site_of_siteFindings {finding : Finding}
    (member : finding ∈ (builtin.run config source dialect program).siteFindings) :
    ∃ site ∈ program.sites, site.span = finding.span := by
  have inSites := (siteFindings_sublist config source dialect program).subset
    (List.mem_map_of_mem (f := Finding.span) member)
  exact List.mem_map.mp inSites

/-- Only a span without text can be that of two findings. -/
theorem siteFindings_repeat_no_text (laid : program.LaidOut) :
    (builtin.run config source dialect program).siteFindings.Pairwise fun first last =>
      first.span = last.span → first.span.stop ≤ first.span.start := by
  refine (siteFindings_precede config source dialect laid).imp ?_
  intro first last precedes same
  rcases precedes with before | inside
  · rw [Span.Before, ← same] at before
    exact before
  · exact absurd same.symm inside.2

theorem siteFindings_spans_nodup (laid : program.LaidOut) (nonempty : program.HasSitesNonempty) :
    ((builtin.run config source dialect program).siteFindings.map Finding.span).Nodup := by
  rw [List.nodup_iff_pairwise_ne, List.pairwise_map]
  refine (siteFindings_repeat_no_text config source dialect laid).imp_of_mem ?_
  intro first last member _ noText same
  obtain ⟨site, isSite, placed⟩ := exists_site_of_siteFindings config source dialect member
  have taken := nonempty site isSite
  rw [placed] at taken
  exact Nat.not_le_of_lt taken (noText same)

variable (laid : program.LaidOut) (forward : program.HasSitesForward)
include laid forward

theorem siteFindings_starts_sorted :
    (builtin.run config source dialect program).siteFindings.Pairwise fun first last =>
      first.span.start ≤ last.span.start := by
  refine (siteFindings_precede config source dialect laid).imp_of_mem ?_
  intro first last member _ precedes
  obtain ⟨site, isSite, placed⟩ := exists_site_of_siteFindings config source dialect member
  have ahead := forward site isSite
  rw [placed] at ahead
  rcases precedes with before | inside
  · exact Nat.le_trans ahead before
  · exact inside.1.1

theorem siteFindings_positions_sorted (filename : String) :
    ((builtin.run config source dialect program).siteFindings.map (Finding.inFile filename source)).Pairwise
      fun first last => first.position.AtOrBefore last.position := by
  rw [List.pairwise_map]
  exact (siteFindings_starts_sorted config source dialect laid forward).imp fun sorted =>
    Position.ofOffset_mono source sorted

end Order
end Registry

/-- Of two findings of whole sites the first ends before the second starts or has it strictly inside. Two of them have
one span only if there is no text in it, and so not at all if calls and elements take up text. If none of these stops
before it starts, no later finding starts earlier, and the lines and columns of a linted file never go back. -/
theorem siteFindings_in_source_order {program : Program} (laid : program.LaidOut) (config : Config)
    (source : String) (dialect : Dialect) :
    ((Registry.builtin.run config source dialect program).siteFindings.Pairwise fun first last =>
        first.span.Before last.span ∨ last.span.Inside first.span) ∧
      ((Registry.builtin.run config source dialect program).siteFindings.Pairwise fun first last =>
        first.span = last.span → first.span.stop ≤ first.span.start) ∧
      (program.HasSitesNonempty →
        ((Registry.builtin.run config source dialect program).siteFindings.map Finding.span).Nodup) ∧
      (program.HasSitesForward →
        ((Registry.builtin.run config source dialect program).siteFindings.Pairwise fun first last =>
          first.span.start ≤ last.span.start) ∧
        (∀ filename, ((Registry.builtin.run config source dialect program).siteFindings.map
          (Finding.inFile filename source)).Pairwise fun first last => first.position.AtOrBefore last.position) ∧
        ∀ filename, Program.ofText (.ofPath filename) source = .ok program →
          ∃ found, lintFile config filename source = .ok found ∧
            (found.filter fun each => each.finding.ofWholeSite).Pairwise fun first last =>
              first.position.AtOrBefore last.position) := by
  refine ⟨Registry.siteFindings_precede config source dialect laid,
    Registry.siteFindings_repeat_no_text config source dialect laid,
    Registry.siteFindings_spans_nodup config source dialect laid, ?_⟩
  intro forward
  refine ⟨Registry.siteFindings_starts_sorted config source dialect laid forward,
    Registry.siteFindings_positions_sorted config source dialect laid forward, ?_⟩
  intro filename parsed
  refine ⟨_, by rw [lintFile, Registry.lintFile, parsed], ?_⟩
  rw [List.filter_map]
  exact Registry.siteFindings_positions_sorted config source (.ofPath filename) laid forward filename

theorem siteFindings_in_source_order_nested_calls :
    ∃ program, Program.ofText (.ofPath "a.jsx") "a.apply(1)\n.apply(<button />)" = .ok program ∧
      program.LaidOut ∧ program.HasSitesNonempty ∧ program.HasSitesForward ∧
      ((Registry.builtin.run .default "a.apply(1)\n.apply(<button />)" (.ofPath "a.jsx") program).siteFindings.map
        Finding.span).Nodup ∧
      ∃ found, lintFile .default "a.jsx" "a.apply(1)\n.apply(<button />)" = .ok found ∧
        (found.filter fun each => each.finding.ofWholeSite).Pairwise fun first last =>
          first.position.AtOrBefore last.position := by
  have fits : (match Program.ofText (.ofPath "a.jsx") "a.apply(1)\n.apply(<button />)" with
      | .ok program => decide (program.LaidOut ∧ program.HasSitesNonempty)
      | .error _ => false) = true := by decide +kernel
  cases parsed : Program.ofText (.ofPath "a.jsx") "a.apply(1)\n.apply(<button />)" with
  | error issues => simp [parsed] at fits
  | ok program =>
    obtain ⟨laid, nonempty⟩ : program.LaidOut ∧ program.HasSitesNonempty := by simpa [parsed] using fits
    have forward : program.HasSitesForward := nonempty.forward
    obtain ⟨-, -, distinct, sorted⟩ := siteFindings_in_source_order laid .default
      "a.apply(1)\n.apply(<button />)" (.ofPath "a.jsx")
    obtain ⟨-, -, files⟩ := sorted forward
    exact ⟨program, rfl, laid, nonempty, forward, distinct nonempty, files "a.jsx" parsed⟩

def Node.applyStatement (span : Span) : Node :=
  .expressionStatement span (.call span (.member span (.identifier span "f") "apply" false) [] [] false)

def Program.ofApplies (spans : List Span) : Program := ⟨⟨0, 1⟩, [], spans.map .applyStatement⟩

/-- Spans without text repeat although they are laid out, and starts go back where a span stops before it starts. -/
theorem siteFindings_of_no_text :
    ((Program.ofApplies [⟨0, 0⟩, ⟨0, 0⟩]).LaidOut ∧ (Program.ofApplies [⟨0, 0⟩, ⟨0, 0⟩]).HasSitesForward ∧
      ¬ ((Registry.builtin.run .default "f" .untyped (.ofApplies [⟨0, 0⟩, ⟨0, 0⟩])).siteFindings.map
        Finding.span).Nodup) ∧
    (Program.ofApplies [⟨1, 0⟩, ⟨0, 0⟩]).LaidOut ∧
      (¬ (Registry.builtin.run .default "f" .untyped (.ofApplies [⟨1, 0⟩, ⟨0, 0⟩])).siteFindings.Pairwise
        fun first last => first.span.start ≤ last.span.start) ∧
      ¬ ((Registry.builtin.run .default "f" .untyped (.ofApplies [⟨1, 0⟩, ⟨0, 0⟩])).siteFindings.map
        (Finding.inFile "a.js" "f")).Pairwise fun first last => first.position.AtOrBefore last.position := by
  decide +kernel

end ScriptLint
