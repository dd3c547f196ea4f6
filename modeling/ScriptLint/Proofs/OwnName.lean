import ScriptLint.Proofs.Dispatch
import ScriptLint.Proofs.NameErrors
import ScriptLint.Proofs.PluginPrefix
import ScriptLint.Proofs.QuotedText

/-! Setting a rule by its own name. The prefix of the plugin is removed once wherever a rule is looked up, so that a
name that has the prefix itself stands for the rule without it. Any other rule is set by its name, with and without
the prefix, and then it runs. -/

namespace ScriptLint

namespace Visitor

def call? : Visitor → Option (CallSite → Option Span)
  | call find => some find
  | element _ => none

def element? : Visitor → Option (ElementSite → Option Span)
  | call _ => none
  | element find => some find

end Visitor

namespace Dispatch

structure Runs (dispatch : Dispatch) (dialect : Dialect) (rule : Rule) (severity : Severity) : Prop where
  calls : ((rule.visitors.filterMap Visitor.call?).map (Enabled.mk rule severity)).Sublist dispatch.calls
  elements : dialect.elements = true →
    ((rule.visitors.filterMap Visitor.element?).map (Enabled.mk rule severity)).Sublist dispatch.elements
  noElements : dialect.elements = false → dispatch.elements = []

theorem enabledCalls_of_severity {config : Config} {rule : Rule} {severity : Severity}
    (on : (config.level rule.name).severity? = some severity) :
    rule.enabledCalls config = (rule.visitors.filterMap Visitor.call?).map (Enabled.mk rule severity) := by
  rw [Rule.enabledCalls, on]
  dsimp only
  rw [List.filterMap_eq_flatMap_toList, List.map_flatMap]
  refine List.flatMap_congr fun visitor _ => ?_
  cases visitor <;> rfl

theorem enabledElements_of_severity {config : Config} {rule : Rule} {severity : Severity}
    (on : (config.level rule.name).severity? = some severity) :
    rule.enabledElements config true = (rule.visitors.filterMap Visitor.element?).map (Enabled.mk rule severity) := by
  rw [Rule.enabledElements, on]
  dsimp only
  rw [List.filterMap_eq_flatMap_toList, List.map_flatMap]
  refine List.flatMap_congr fun visitor _ => ?_
  cases visitor <;> rfl

theorem enabledElements_without (config : Config) (rule : Rule) : rule.enabledElements config false = [] := by
  unfold Rule.enabledElements
  cases (config.level rule.name).severity? with
  | none => rfl
  | some severity =>
    rw [List.flatMap_eq_nil_iff]
    intro visitor _
    cases visitor <;> rfl

theorem runs_ofRegistry {rules : List Rule} {config : Config} {rule : Rule} {severity : Severity}
    (registered : rule ∈ rules) (on : (config.level rule.name).severity? = some severity) (dialect : Dialect) :
    (ofRegistry (Registry.ofRules rules) config dialect).Runs dialect rule severity := by
  refine ⟨?_, ?_, ?_⟩
  · rw [ofRegistry_calls, ← enabledCalls_of_severity on]
    exact List.sublist_flatten_of_mem (List.mem_map_of_mem registered)
  · intro has
    rw [ofRegistry_elements, has, ← enabledElements_of_severity on]
    exact List.sublist_flatten_of_mem (List.mem_map_of_mem registered)
  · intro hasNot
    rw [ofRegistry_elements, hasNot, List.flatMap_eq_nil_iff]
    exact fun rule _ => enabledElements_without config rule

end Dispatch

namespace ConfigText

def Sets (text key : String) (level : Level) : Prop :=
  ∃ entry behind, read text = ⟨[entry], .ok behind⟩ ∧ entry.key = key ∧ Level.ofJson? entry.value = some level

theorem single_sets (key : String) (level : Level) : Sets (single key level) key level := by
  obtain ⟨noted, behind, reading⟩ := read_single key level
  exact ⟨_, behind, reading, rfl, by cases level <;> rfl⟩

end ConfigText

namespace Config
open Rule (bareName)

variable {table : List (String × Level) → List (String × Level)} {rules : List Rule} {text key : String}
  {level : Level}

theorem KeepsLast.table_singleton (keeps : KeepsLast table) (key : String) (level : Level) :
    table [(key, level)] = [(key, level)] := by
  have lists := keeps [(key, level)]
  have same (setting : String × Level) : setting ∈ table [(key, level)] ↔ setting ∈ [(key, level)] := by
    rw [lists.mem_iff setting.1 setting.2]
    by_cases equal : key = setting.1 <;> simp [lastLevel?, Prod.ext_iff, equal, eq_comm]
  exact List.perm_singleton.mp ((List.perm_ext_iff_of_nodup (List.Nodup.of_map _ lists.distinct)
    (List.nodup_singleton _)).mpr same)

theorem ofTextBy_of_sets (keeps : KeepsLast table) (sets : ConfigText.Sets text key level) (registry : Registry) :
    ofTextBy table registry text =
      (addEntries registry none [(key, level)]).mapError ConfigError.ofNameError := by
  obtain ⟨entry, behind, wellFormed, rfl, holds⟩ := sets
  have read : ConfigText.levels [entry] = .ok [(entry.key, level)] := by
    rw [ConfigText.levels, holds]
    rfl
  rw [ofTextBy_of_levels wellFormed read, keeps.table_singleton]

theorem ofTextBy_of_sets_registered (keeps : KeepsLast table) (sets : ConfigText.Sets text key level)
    (registered : ∃ rule ∈ rules, rule.name = bareName key) :
    ofTextBy table (Registry.ofRules rules) text = .ok (none.withRule key level) := by
  have fresh : bareName key ∉ none.levels := Std.ExtTreeMap.not_mem_empty
  rw [ofTextBy_of_sets keeps sets, addEntries_of_fresh registered fresh]
  rfl

theorem ofTextBy_of_sets_unknown (keeps : KeepsLast table) (sets : ConfigText.Sets text key level)
    (unknown : ∀ rule ∈ rules, rule.name ≠ bareName key) :
    ofTextBy table (Registry.ofRules rules) text = .error (.unknownRule key) := by
  rw [ofTextBy_of_sets keeps sets, addEntries_of_unknown unknown]
  rfl

theorem exists_ofTextBy_iff_of_sets (keeps : KeepsLast table) (sets : ConfigText.Sets text key level) :
    (∃ config, ofTextBy table (Registry.ofRules rules) text = .ok config) ↔
      ∃ rule ∈ rules, rule.name = bareName key := by
  constructor
  · rintro ⟨config, success⟩
    by_contra unnamed
    have unknown : ∀ rule ∈ rules, rule.name ≠ bareName key := by simpa using unnamed
    cases (ofTextBy_of_sets_unknown keeps sets unknown).symm.trans success
  · intro registered
    exact ⟨_, ofTextBy_of_sets_registered keeps sets registered⟩

theorem eq_withRule_of_sets (keeps : KeepsLast table) (sets : ConfigText.Sets text key level) {config : Config}
    (success : ofTextBy table (Registry.ofRules rules) text = .ok config) : config = none.withRule key level := by
  have registered := (exists_ofTextBy_iff_of_sets keeps sets).mp ⟨config, success⟩
  cases (ofTextBy_of_sets_registered keeps sets registered).symm.trans success
  rfl

/-- A registered rule can be set by its name with the prefix. It can be set by its name alone if and only if what the
name is without the prefix is registered, and then the rule runs, with all its visitors and at the severity of the
level. A name that has no prefix itself sets the rule either way and to the same effect. Every name can be written. -/
theorem own_name_runs (keeps : KeepsLast table) {rule : Rule} (registered : rule ∈ rules) {severity : Severity}
    (on : level.severity? = some severity) (dialect : Dialect) :
    let registry := Registry.ofRules rules
    (∀ key, ConfigText.Sets (ConfigText.single key level) key level) ∧
    (∀ text, ConfigText.Sets text (Rule.plugin ++ rule.name) level →
      ∃ config, ofTextBy table registry text = .ok config) ∧
    (∀ text, ConfigText.Sets text rule.name level →
      ((∃ config, ofTextBy table registry text = .ok config) ↔
        ∃ other ∈ rules, other.name = bareName rule.name) ∧
      ∀ config, ofTextBy table registry text = .ok config →
        (Dispatch.ofRegistry registry config dialect).Runs dialect rule severity) ∧
    (¬ Rule.plugin.toList <+: rule.name.toList → ∃ config,
      (∀ text, ConfigText.Sets text rule.name level ∨ ConfigText.Sets text (Rule.plugin ++ rule.name) level →
        ofTextBy table registry text = .ok config) ∧
      (Dispatch.ofRegistry registry config dialect).Runs dialect rule severity) := by
  intro registry
  have own : ((none.withRule rule.name level).level rule.name).severity? = some severity := by
    rw [level_withRule, if_pos rfl, on]
  have prefixed : ∃ other ∈ rules, other.name = bareName (Rule.plugin ++ rule.name) :=
    ⟨rule, registered, (Rule.bareName_plugin rule.name).symm⟩
  refine ⟨fun key => ConfigText.single_sets key level, ?_, ?_, ?_⟩
  · intro text sets
    exact (exists_ofTextBy_iff_of_sets keeps sets).mpr prefixed
  · intro text sets
    refine ⟨exists_ofTextBy_iff_of_sets keeps sets, ?_⟩
    intro config success
    rw [eq_withRule_of_sets keeps sets success]
    exact Dispatch.runs_ofRegistry registered own dialect
  · intro bare
    have same := Rule.bareName_of_unprefixed bare
    refine ⟨none.withRule rule.name level, ?_, Dispatch.runs_ofRegistry registered own dialect⟩
    rintro text (sets | sets)
    · exact ofTextBy_of_sets_registered keeps sets ⟨rule, registered, same.symm⟩
    · rw [ofTextBy_of_sets_registered keeps sets prefixed, withRule, withRule, Rule.bareName_plugin, same]

theorem own_name_runs_no_literal : ∃ config,
    ofTextBy lastEntries .builtin (ConfigText.single "no-literal" .error) = .ok config ∧
      ofTextBy lastEntries .builtin (ConfigText.single "custom/no-literal" .error) = .ok config ∧
      (Dispatch.ofRegistry .builtin config .untyped).Runs .untyped NoLiteral.rule .error := by
  have registered : NoLiteral.rule ∈ [NoLiteral.rule, NoFunctionApply.rule, NoButton.rule] := List.mem_cons_self
  have on : Level.error.severity? = some .error := rfl
  obtain ⟨sets, -, -, bare⟩ := own_name_runs lastEntries_keepsLast registered on .untyped
  obtain ⟨config, accepted, runs⟩ := bare (by decide)
  exact ⟨config, accepted _ (.inl (sets _)), accepted _ (.inr (sets _)), runs⟩

/-- A rule whose own name has the prefix is not found by it. -/
theorem own_prefixed_name_unknown :
    ConfigText.Sets (ConfigText.single "custom/x" .error) "custom/x" .error ∧
      ofText (Registry.ofRules [⟨"custom/x", .style, "message", "docs", []⟩]) (ConfigText.single "custom/x" .error) =
        .error (.unknownRule "custom/x") := by
  have sets := ConfigText.single_sets "custom/x" .error
  exact ⟨sets, ofTextBy_of_sets_unknown lastEntries_keepsLast sets (by decide)⟩

end Config
end ScriptLint
