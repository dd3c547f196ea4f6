import Mathlib.Data.List.Forall2
import ScriptLint.Proofs.Independence
import ScriptLint.Syntax.Program

/-! The level of a rule decides whether it runs and how severe its findings are, and nothing else. So two
configurations that have the same rules on give the same findings up to their severity, which is the one that each
of them sets. The counts of errors and warnings share out the findings of a run. -/

namespace ScriptLint

theorem Level.severity?_eq_iff {on : Level} {severity : Severity} (same : on.severity? = some severity)
    (level : Level) : level.severity? = some severity ↔ level = on := by
  cases on <;> cases level <;> simp_all [severity?, eq_comm]

namespace Finding

structure SaysSame (one other : Finding) : Prop where
  rule : one.rule = other.rule
  span : one.span = other.span
  message : one.message = other.message
  help : one.help = other.help

def relabeled (config : Config) (finding : Finding) : Finding :=
  match (config.level finding.rule).severity? with
  | some severity => finding.withSeverity severity
  | none => finding

theorem saysSame_relabeled (config : Config) (finding : Finding) : finding.SaysSame (finding.relabeled config) := by
  unfold relabeled
  split <;> exact ⟨rfl, rfl, rfl, rfl⟩

end Finding

def Registry.EnabledAlike (registry : Registry) (one other : Config) : Prop :=
  ∀ rule ∈ registry.rules, one.isEnabled rule.name = other.isEnabled rule.name

instance (registry : Registry) (one other : Config) : Decidable (registry.EnabledAlike one other) :=
  inferInstanceAs (Decidable (∀ _ ∈ _, _))

namespace Rule

theorem severity_of_findingsAt {config : Config} {dialect : Dialect} {site : Site} {rule : Rule} {finding : Finding}
    (reported : finding ∈ rule.findingsAt config dialect site) :
    (config.level finding.rule).severity? = some finding.severity := by
  obtain ⟨severity, on, visitor, -, -, span, -, rfl⟩ := mem_findingsAt_iff.mp reported
  exact on

/-- A rule that is on in two configurations reports the same in both, each time at the severity set there. -/
theorem findingsAt_relabeled {one other : Config} {rule : Rule}
    (alike : one.isEnabled rule.name = other.isEnabled rule.name) (dialect : Dialect) (site : Site) :
    rule.findingsAt other dialect site = (rule.findingsAt one dialect site).map (Finding.relabeled other) := by
  by_cases on : one.isEnabled rule.name = true
  · obtain ⟨severity, here⟩ := Level.isEnabled_iff.mp on
    obtain ⟨changed, there⟩ := Level.isEnabled_iff.mp (alike.symm.trans on)
    simp only [findingsAt, here, there, List.map_filterMap, Option.map_map]
    apply List.filterMap_congr
    intro visitor _
    apply congrArg (Option.map · (visitor.find? site))
    funext span
    simp only [Function.comp_apply, Finding.relabeled, there]
    rfl
  · have off (config : Config) (same : config.isEnabled rule.name = one.isEnabled rule.name) :
        config.level rule.name = .off := by
      have notOn : (config.level rule.name).isEnabled = false := same.trans (Bool.eq_false_iff.mpr on)
      simpa [Level.isEnabled] using notOn
    rw [findingsAt_of_off (off one rfl), findingsAt_of_off (off other alike.symm), List.map_nil]

end Rule

namespace Registry

theorem mem_run_findings {registry : Registry} {config : Config} {source : String} {dialect : Dialect}
    {program : Program} {finding : Finding}
    (reported : finding ∈ (registry.run config source dialect program).findings) :
    ∃ site, ∃ rule ∈ registry.rules, finding ∈ rule.findingsAt config dialect site := by
  rw [run_findings] at reported
  obtain ⟨site, -, inside⟩ := List.mem_flatMap.mp reported
  obtain ⟨rule, known, inside⟩ := List.mem_flatMap.mp inside
  exact ⟨site, rule, known, inside⟩

theorem run_relabeled {registry : Registry} {one other : Config} (alike : registry.EnabledAlike one other)
    (source : String) (dialect : Dialect) (program : Program) :
    (registry.run other source dialect program).findings =
      (registry.run one source dialect program).findings.map (Finding.relabeled other) := by
  rw [run_findings, run_findings, List.map_flatMap]
  apply List.flatMap_congr
  intro site _
  rw [List.map_flatMap]
  exact List.flatMap_congr fun rule known => rule.findingsAt_relabeled (alike rule known) dialect site

theorem label_of_run {registry : Registry} {config : Config} {source : String} {dialect : Dialect}
    {program : Program} {finding : Finding}
    (reported : finding ∈ (registry.run config source dialect program).findings) :
    (config.level finding.rule).severity? = some finding.severity := by
  obtain ⟨site, rule, -, inside⟩ := mem_run_findings reported
  exact Rule.severity_of_findingsAt inside

/-- The findings of a severity are those of the rules that are set to the level of it. -/
theorem length_filter_severity {on : Level} {severity : Severity} (same : on.severity? = some severity)
    (registry : Registry) (config : Config) (source : String) (dialect : Dialect) (program : Program) :
    ((registry.run config source dialect program).findings.filter (·.severity = severity)).length =
      (registry.run config source dialect program).findings.countP fun finding => config.level finding.rule = on := by
  rw [← List.countP_eq_length_filter]
  apply List.countP_congr
  intro finding reported
  rw [decide_eq_true_iff, decide_eq_true_iff, ← Level.severity?_eq_iff same, label_of_run reported,
    Option.some.injEq]

end Registry

namespace Report

theorem errorCount_add_warningCount (report : Report) :
    report.errorCount + report.warningCount = report.findings.length := by
  have notError (finding : Finding) :
      decide (finding.severity = .warning) = !decide (finding.severity = .error) := by
    cases finding.severity <;> rfl
  simp only [errorCount, warningCount, errors, warnings, notError]
  exact (List.length_eq_length_filter_add _).symm

theorem hasErrors_iff (report : Report) : report.hasErrors = true ↔ 0 < report.errorCount := by
  rw [hasErrors, List.any_eq_true, errorCount, errors, List.length_filter_pos_iff]

theorem hasWarnings_iff (report : Report) : report.hasWarnings = true ↔ 0 < report.warningCount := by
  rw [hasWarnings, List.any_eq_true, warningCount, warnings, List.length_filter_pos_iff]

end Report

/-- Two runs with the same rules on give findings that say the same one by one. In every run a finding is of a
registered rule that is on, at the severity that is set for it. Errors and warnings are all findings, and the errors
are those of the rules that are set to be errors. -/
theorem levels_relabel_findings (registry : Registry) (config : Config) (source : String) (dialect : Dialect)
    (program : Program) :
    let report := registry.run config source dialect program
    (∀ other, registry.EnabledAlike config other →
      List.Forall₂ Finding.SaysSame report.findings (registry.run other source dialect program).findings) ∧
    (∀ finding ∈ report.findings, (∃ rule ∈ registry.rules, rule.name = finding.rule) ∧
      config.isEnabled finding.rule = true ∧
      (config.level finding.rule).severity? = some finding.severity) ∧
    report.errorCount + report.warningCount = report.findings.length ∧
    (report.hasErrors = true ↔ 0 < report.errorCount) ∧
    (report.hasWarnings = true ↔ 0 < report.warningCount) ∧
    report.errorCount = report.findings.countP (fun finding => config.level finding.rule = .error) ∧
    report.warningCount = report.findings.countP fun finding => config.level finding.rule = .warn := by
  intro report
  refine ⟨?_, ?_, report.errorCount_add_warningCount, report.hasErrors_iff, report.hasWarnings_iff, ?_, ?_⟩
  · intro other alike
    rw [Registry.run_relabeled alike, List.forall₂_map_right_iff, List.forall₂_same]
    exact fun finding _ => finding.saysSame_relabeled other
  · intro finding reported
    obtain ⟨site, rule, known, inside⟩ := Registry.mem_run_findings reported
    have label := Registry.label_of_run reported
    exact ⟨⟨rule, known, (Rule.name_of_findingsAt inside).symm⟩, Level.isEnabled_iff.mpr ⟨_, label⟩, label⟩
  · exact Registry.length_filter_severity rfl registry config source dialect program
  · exact Registry.length_filter_severity rfl registry config source dialect program

theorem levels_relabel_findings_mixed :
    let config := Config.default.withRule "custom/no-function-apply" .error
    ∃ program, Program.ofText (.ofPath "a.jsx") "a.apply(1); <button />" = .ok program ∧
      Registry.builtin.EnabledAlike .default config ∧
      List.Forall₂ Finding.SaysSame (Registry.builtin.run .default "" .untyped program).findings
        (Registry.builtin.run config "" .untyped program).findings ∧
      (Registry.builtin.run config "" .untyped program).findings.map Finding.severity =
        [.warning, .error, .warning] := by
  intro config
  have checked : (Program.ofText (.ofPath "a.jsx") "a.apply(1); <button />").toOption.any
      (fun program => decide ((Registry.builtin.run config "" .untyped program).findings.map Finding.severity =
        [.warning, .error, .warning])) = true := by decide +kernel
  obtain ⟨program, parsed, fits⟩ := exists_ok_of_any checked
  have alike : Registry.builtin.EnabledAlike .default config := by decide +kernel
  have same := (levels_relabel_findings .builtin .default "" .untyped program).1 config alike
  exact ⟨program, parsed, alike, same, of_decide_eq_true fits⟩

end ScriptLint
