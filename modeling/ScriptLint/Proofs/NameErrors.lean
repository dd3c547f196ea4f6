import ScriptLint.Proofs.WrittenConfig

/-! Which names a written configuration gets wrong. The keys are taken in the order in which the table gives them
out, and the first that is wrong is reported: one that names no rule, or one that names a rule which an earlier key
has named already. Each report is right about the keys, and that there is one does not depend on the order. Where
the keys have a single fault, the report does not either. A value that is no level is reported before all names. -/

namespace ScriptLint

namespace Config
open Rule (bareName)

def Unknown (registry : Registry) (keys : List String) (key : String) : Prop :=
  key ∈ keys ∧ registry.get? key = Option.none

def Clash (registry : Registry) (keys : List String) (one other : String) : Prop :=
  one ∈ keys ∧ other ∈ keys ∧ one ≠ other ∧
    ∃ rule, registry.get? one = some rule ∧ registry.get? other = some rule

/-- What refuses the entries is the first of them that names no rule, or one that is set by then. -/
theorem exists_refused {rules : List Rule} {config : Config} {entries : List (String × Level)} {error : NameError}
    (refused : addEntries (Registry.ofRules rules) config entries = .error error) :
    ∃ before key level after, entries = before ++ (key, level) :: after ∧
      ((∀ rule ∈ rules, rule.name ≠ bareName key) ∧ error = .unknown key ∨
        (∃ rule ∈ rules, rule.name = bareName key) ∧ error = .duplicate (bareName key) ∧
          (bareName key ∈ config.levels ∨ ∃ earlier ∈ before, bareName earlier.1 = bareName key)) := by
  induction entries generalizing config with
  | nil => cases refused
  | cons entry rest ih =>
    obtain ⟨key, level⟩ := entry
    by_cases registered : ∃ rule ∈ rules, rule.name = bareName key
    · by_cases present : bareName key ∈ config.levels
      · rw [addEntries_of_present registered present] at refused
        exact ⟨[], key, level, rest, rfl, .inr ⟨registered, (Except.error.inj refused).symm, .inl present⟩⟩
      · rw [addEntries_of_fresh registered present] at refused
        obtain ⟨before, last, lastLevel, after, rfl, unknown | ⟨named, reported, taken⟩⟩ := ih refused
        · exact ⟨(key, level) :: before, last, lastLevel, after, rfl, .inl unknown⟩
        · refine ⟨(key, level) :: before, last, lastLevel, after, rfl, .inr ⟨named, reported, ?_⟩⟩
          -- The name is set by then: this entry has set it, or another one before or after it.
          rw [mem_levels_withRule] at taken
          rcases taken with (here | set) | ⟨earlier, member, same⟩
          · exact .inr ⟨(key, level), List.mem_cons_self, here⟩
          · exact .inl set
          · exact .inr ⟨earlier, List.mem_cons_of_mem _ member, same⟩
    · have unknown : ∀ rule ∈ rules, rule.name ≠ bareName key := by simpa using registered
      rw [addEntries_of_unknown unknown] at refused
      exact ⟨[], key, level, rest, rfl, .inl ⟨unknown, (Except.error.inj refused).symm⟩⟩

section Text

variable {table : List (String × Level) → List (String × Level)} {rules : List Rule} {text : String}
  {entries : List ConfigText.Entry} {behind : Json.Cursor}

theorem ofTextBy_of_levels (wellFormed : ConfigText.read text = ⟨entries, .ok behind⟩)
    {pairs : List (String × Level)} (read : ConfigText.levels entries = .ok pairs) (registry : Registry) :
    ofTextBy table registry text = (addEntries registry none (table pairs)).mapError ConfigError.ofNameError := by
  simp only [ofTextBy, wellFormed, read, ofEntries]

/-- With levels for all values, what can be refused is a key that names no rule, or one of two that name one. -/
theorem refused_of_ofTextBy (keeps : KeepsLast table) (wellFormed : ConfigText.read text = ⟨entries, .ok behind⟩)
    (valid : ∀ entry ∈ entries, ∃ level, Level.ofJson? entry.value = some level) {error : ConfigError}
    (refused : ofTextBy table (Registry.ofRules rules) text = .error error) :
    (∃ key, Unknown (Registry.ofRules rules) (entries.map ConfigText.Entry.key) key ∧ error = .unknownRule key) ∨
      ∃ one other rule, Clash (Registry.ofRules rules) (entries.map ConfigText.Entry.key) one other ∧
        (Registry.ofRules rules).get? one = some rule ∧ error = .duplicateRule rule.name := by
  obtain ⟨pairs, read⟩ := (ConfigText.exists_levels_iff entries).mpr valid
  rw [ofTextBy_of_levels wellFormed read] at refused
  cases added : addEntries (Registry.ofRules rules) none (table pairs) with
  | ok config =>
    rw [added] at refused
    cases refused
  | error nameError =>
    rw [added] at refused
    obtain ⟨before, key, level, after, listed, wrong⟩ := exists_refused added
    have written (setting : String × Level) (member : setting ∈ table pairs) :
        setting.1 ∈ entries.map ConfigText.Entry.key :=
      (mem_keys_iff_written keeps read _).mp (List.mem_map_of_mem member)
    have here : (key, level) ∈ table pairs := by simp [listed]
    rcases wrong with ⟨unknown, rfl⟩ | ⟨registered, rfl, set | ⟨earlier, member, same⟩⟩
    · refine .inl ⟨key, ⟨written _ here, (Registry.get?_eq_none_iff rules key).mpr unknown⟩, ?_⟩
      exact (Except.error.inj refused).symm
    · exact absurd set Std.ExtTreeMap.not_mem_empty
    · obtain ⟨rule, found⟩ := (Registry.exists_get?_iff rules key).mpr registered
      have different : key ≠ earlier.1 := by
        have distinct := (keeps pairs).distinct
        rw [listed, List.map_append, List.map_cons, List.nodup_append] at distinct
        exact (distinct.2.2 earlier.1 (List.mem_map_of_mem member) key List.mem_cons_self).symm
      have foundEarlier := (Registry.get?_congr (Registry.ofRules rules) same).trans found
      refine .inr ⟨key, earlier.1, rule, ⟨written _ here, written earlier (by simp [listed, member]), different,
        rule, found, foundEarlier⟩, found, ?_⟩
      rw [Registry.name_of_get? found]
      exact (Except.error.inj refused).symm

/-- Every table gives the same configuration, or none does. -/
theorem ofTextBy_eq_ok_congr {other : List (String × Level) → List (String × Level)} (keeps : KeepsLast table)
    (others : KeepsLast other) (wellFormed : ConfigText.read text = ⟨entries, .ok behind⟩) {config : Config}
    (success : ofTextBy table (Registry.ofRules rules) text = .ok config) :
    ofTextBy other (Registry.ofRules rules) text = .ok config := by
  have conditions := (exists_ofTextBy_iff keeps wellFormed rules).mp ⟨config, success⟩
  obtain ⟨found, also⟩ := (exists_ofTextBy_iff others wellFormed rules).mpr conditions
  obtain ⟨pairs, read⟩ := (ConfigText.exists_levels_iff entries).mpr conditions.1
  have lists := enumerates_of_levels keeps read
  have same := eq_withRules_of_ofTextBy keeps wellFormed success lists
  have sameOther := eq_withRules_of_ofTextBy others wellFormed also lists
  rw [also, sameOther, same]

theorem not_unknown_of_ofTextBy (keeps : KeepsLast table)
    (wellFormed : ConfigText.read text = ⟨entries, .ok behind⟩) {config : Config}
    (success : ofTextBy table (Registry.ofRules rules) text = .ok config) (key : String) :
    ¬ Unknown (Registry.ofRules rules) (entries.map ConfigText.Entry.key) key := by
  rintro ⟨written, missing⟩
  obtain ⟨-, named, -⟩ := (exists_ofTextBy_iff keeps wellFormed rules).mp ⟨config, success⟩
  obtain ⟨rule, member, same⟩ := named key written
  exact (Registry.get?_eq_none_iff rules key).mp missing rule member same

theorem not_clash_of_ofTextBy (keeps : KeepsLast table)
    (wellFormed : ConfigText.read text = ⟨entries, .ok behind⟩) {config : Config}
    (success : ofTextBy table (Registry.ofRules rules) text = .ok config) (one other : String) :
    ¬ Clash (Registry.ofRules rules) (entries.map ConfigText.Entry.key) one other := by
  rintro ⟨written, also, different, rule, found, foundOther⟩
  obtain ⟨-, -, separate⟩ := (exists_ofTextBy_iff keeps wellFormed rules).mp ⟨config, success⟩
  have same := (Registry.name_of_get? found).symm.trans (Registry.name_of_get? foundOther)
  exact different (separate one written other also same)

theorem unknown_of_unknownRule (keeps : KeepsLast table) (wellFormed : ConfigText.read text = ⟨entries, .ok behind⟩)
    (valid : ∀ entry ∈ entries, ∃ level, Level.ofJson? entry.value = some level) {key : String}
    (refused : ofTextBy table (Registry.ofRules rules) text = .error (.unknownRule key)) :
    Unknown (Registry.ofRules rules) (entries.map ConfigText.Entry.key) key := by
  obtain ⟨_, unknown, same⟩ | ⟨_, _, _, -, -, same⟩ := refused_of_ofTextBy keeps wellFormed valid refused
  · cases same
    exact unknown
  · cases same

theorem exists_clash_of_duplicateRule (keeps : KeepsLast table)
    (wellFormed : ConfigText.read text = ⟨entries, .ok behind⟩)
    (valid : ∀ entry ∈ entries, ∃ level, Level.ofJson? entry.value = some level) {name : String}
    (refused : ofTextBy table (Registry.ofRules rules) text = .error (.duplicateRule name)) :
    ∃ one other rule, Clash (Registry.ofRules rules) (entries.map ConfigText.Entry.key) one other ∧
      (Registry.ofRules rules).get? one = some rule ∧ rule.name = name := by
  obtain ⟨_, -, same⟩ | ⟨one, other, rule, clash, found, same⟩ := refused_of_ofTextBy keeps wellFormed valid refused
  · cases same
  · cases same
    exact ⟨one, other, rule, clash, found, rfl⟩

/-- A key that names no rule is reported if it is the only fault. -/
theorem ofTextBy_eq_unknownRule (keeps : KeepsLast table) (wellFormed : ConfigText.read text = ⟨entries, .ok behind⟩)
    (valid : ∀ entry ∈ entries, ∃ level, Level.ofJson? entry.value = some level) {key : String}
    (unknown : Unknown (Registry.ofRules rules) (entries.map ConfigText.Entry.key) key)
    (only : ∀ other, Unknown (Registry.ofRules rules) (entries.map ConfigText.Entry.key) other → other = key)
    (noClash : ∀ one other, ¬ Clash (Registry.ofRules rules) (entries.map ConfigText.Entry.key) one other) :
    ofTextBy table (Registry.ofRules rules) text = .error (.unknownRule key) := by
  cases outcome : ofTextBy table (Registry.ofRules rules) text with
  | ok config => exact absurd unknown (not_unknown_of_ofTextBy keeps wellFormed outcome key)
  | error error =>
    obtain ⟨other, also, rfl⟩ | ⟨one, other, -, clash, -⟩ := refused_of_ofTextBy keeps wellFormed valid outcome
    · rw [only other also]
    · exact absurd clash (noClash one other)

/-- The rule that two keys name is reported if that is the only fault. -/
theorem ofTextBy_eq_duplicateRule (keeps : KeepsLast table)
    (wellFormed : ConfigText.read text = ⟨entries, .ok behind⟩)
    (valid : ∀ entry ∈ entries, ∃ level, Level.ofJson? entry.value = some level) {one other : String}
    (clash : Clash (Registry.ofRules rules) (entries.map ConfigText.Entry.key) one other)
    (only : ∀ first last, Clash (Registry.ofRules rules) (entries.map ConfigText.Entry.key) first last →
      first = one ∧ last = other ∨ first = other ∧ last = one)
    (noUnknown : ∀ key, ¬ Unknown (Registry.ofRules rules) (entries.map ConfigText.Entry.key) key) :
    ∃ rule, (Registry.ofRules rules).get? one = some rule ∧
      ofTextBy table (Registry.ofRules rules) text = .error (.duplicateRule rule.name) := by
  cases outcome : ofTextBy table (Registry.ofRules rules) text with
  | ok config => exact absurd clash (not_clash_of_ofTextBy keeps wellFormed outcome one other)
  | error error =>
    obtain ⟨key, unknown, -⟩ | ⟨first, last, rule, again, found, rfl⟩ :=
      refused_of_ofTextBy keeps wellFormed valid outcome
    · exact absurd unknown (noUnknown key)
    · refine ⟨rule, ?_, rfl⟩
      have ends := only first last again
      obtain ⟨-, -, -, shared, foundFirst, foundLast⟩ := again
      cases Option.some.inj (foundFirst.symm.trans found)
      obtain ⟨rfl, -⟩ | ⟨-, rfl⟩ := ends
      · exact foundFirst
      · exact foundLast

end Text

end Config

namespace ConfigText

/-- A value that is no level is reported, whatever the other values are. -/
theorem levels_eq_error {entries : List Entry} (invalid : ∃ entry ∈ entries, Level.ofJson? entry.value = none) :
    ∃ entry ∈ entries, Level.ofJson? entry.value = none ∧
      levels entries = .error (.notLevel entry.value entry.after) := by
  obtain ⟨wrong, member, noLevel⟩ := invalid
  induction entries with
  | nil => cases member
  | cons entry rest ih =>
    rw [levels]
    cases read : Level.ofJson? entry.value with
    | none => exact ⟨entry, List.mem_cons_self, read, rfl⟩
    | some level =>
      rcases List.mem_cons.mp member with rfl | inRest
      · rw [read] at noLevel
        cases noLevel
      · obtain ⟨first, inside, noLevel, reported⟩ := ih inRest
        refine ⟨first, List.mem_cons_of_mem _ inside, noLevel, ?_⟩
        rw [reported]
        rfl

end ConfigText

namespace Config
open ConfigText (Entry)

variable {table : List (String × Level) → List (String × Level)}

/-- With levels for all values, a report names a written key that no rule is found by, or a rule that two written
keys name. The order in which the table gives out the keys decides neither success nor the configuration, and with
a single fault it does not decide the report. A value that is no level is reported whatever the keys are. -/
theorem reports_precise (keeps : KeepsLast table) (rules : List Rule) (text : String) :
    let registry := Registry.ofRules rules
    (∀ entries behind, ConfigText.read text = ⟨entries, .ok behind⟩ →
      (∀ entry ∈ entries, ∃ level, Level.ofJson? entry.value = some level) →
      let keys := entries.map Entry.key
      (∀ key, ofTextBy table registry text = .error (.unknownRule key) →
        key ∈ keys ∧ registry.get? key = .none) ∧
      (∀ name, ofTextBy table registry text = .error (.duplicateRule name) →
        ∃ rule ∈ rules, rule.name = name ∧ ∃ one ∈ keys, ∃ other ∈ keys, one ≠ other ∧
          registry.get? one = some rule ∧ registry.get? other = some rule) ∧
      (∀ fault, ofTextBy table registry text ≠ .error (.text fault)) ∧
      (∀ other, KeepsLast other → ∀ config,
        ofTextBy table registry text = .ok config ↔ ofTextBy other registry text = .ok config) ∧
      (∀ key, Unknown registry keys key → (∀ other, Unknown registry keys other → other = key) →
        (∀ one other, ¬ Clash registry keys one other) →
        ofTextBy table registry text = .error (.unknownRule key)) ∧
      ∀ one other, Clash registry keys one other →
        (∀ first last, Clash registry keys first last →
          first = one ∧ last = other ∨ first = other ∧ last = one) →
        (∀ key, ¬ Unknown registry keys key) →
        ∃ rule, registry.get? one = some rule ∧
          ofTextBy table registry text = .error (.duplicateRule rule.name)) ∧
    ((∃ entry ∈ (ConfigText.read text).entries, Level.ofJson? entry.value = .none) →
      ∃ entry ∈ (ConfigText.read text).entries, Level.ofJson? entry.value = .none ∧
        ofTextBy table registry text = .error (.text (.notLevel entry.value entry.after))) := by
  intro registry
  refine ⟨?_, ?_⟩
  · intro entries behind wellFormed valid keys
    refine ⟨?_, ?_, ?_, ?_, ?_, ?_⟩
    · intro key refused
      exact unknown_of_unknownRule keeps wellFormed valid refused
    · intro name refused
      obtain ⟨one, other, rule, clash, foundOne, named⟩ :=
        exists_clash_of_duplicateRule keeps wellFormed valid refused
      obtain ⟨written, also, different, _, found, foundOther⟩ := clash
      cases Option.some.inj (found.symm.trans foundOne)
      exact ⟨rule, Registry.mem_of_get? found, named, one, written, other, also, different, found, foundOther⟩
    · intro fault refused
      obtain ⟨_, -, same⟩ | ⟨_, _, _, -, -, same⟩ := refused_of_ofTextBy keeps wellFormed valid refused
      · cases same
      · cases same
    · intro other others config
      exact ⟨ofTextBy_eq_ok_congr keeps others wellFormed, ofTextBy_eq_ok_congr others keeps wellFormed⟩
    · intro key unknown only noClash
      exact ofTextBy_eq_unknownRule keeps wellFormed valid unknown only noClash
    · intro one other clash only noUnknown
      exact ofTextBy_eq_duplicateRule keeps wellFormed valid clash only noUnknown
  · intro invalid
    obtain ⟨entry, member, noLevel, reported⟩ := ConfigText.levels_eq_error invalid
    refine ⟨entry, member, noLevel, ?_⟩
    simp only [ofTextBy, reported]

theorem reports_precise_single_fault :
    ofTextBy lastEntries .builtin "\x7b\"rules\": \x7b\"no-literal\": 1, \"custom/nope\": 2\x7d\x7d" =
        .error (.unknownRule "custom/nope") ∧
      ofTextBy lastEntries .builtin "\x7b\"rules\": \x7b\"no-literal\": 1, \"custom/no-literal\": 2\x7d\x7d" =
        .error (.duplicateRule "no-literal") ∧
      ∃ value after, ofTextBy lastEntries .builtin "\x7b\"rules\": \x7b\"nope\": 1, \"no-literal\": 3\x7d\x7d" =
        .error (.text (.notLevel value after)) := by
  have unknown : ∃ reading, ConfigText.read
      "\x7b\"rules\": \x7b\"no-literal\": 1, \"custom/nope\": 2\x7d\x7d" = reading ∧ reading.outcome.toBool ∧
      reading.entries.map Entry.key = ["no-literal", "custom/nope"] ∧
      reading.entries.all (fun entry => (Level.ofJson? entry.value).isSome) := ⟨_, rfl, by decide +kernel⟩
  have clash : ∃ reading, ConfigText.read
      "\x7b\"rules\": \x7b\"no-literal\": 1, \"custom/no-literal\": 2\x7d\x7d" = reading ∧
      reading.outcome.toBool ∧ reading.entries.map Entry.key = ["no-literal", "custom/no-literal"] ∧
      reading.entries.all (fun entry => (Level.ofJson? entry.value).isSome) := ⟨_, rfl, by decide +kernel⟩
  refine ⟨?_, ?_, ?_⟩
  · obtain ⟨⟨entries, fault | behind⟩, wellFormed, ok, keys, read⟩ := unknown
    · cases ok
    · have levels : ∀ entry ∈ entries, ∃ level, Level.ofJson? entry.value = some level := by
        simpa [Option.isSome_iff_exists] using read
      obtain ⟨-, -, -, -, single, -⟩ := (reports_precise lastEntries_keepsLast
        [NoLiteral.rule, NoFunctionApply.rule, NoButton.rule] _).1 entries behind wellFormed levels
      rw [keys] at single
      refine single "custom/nope" ⟨by decide +kernel, by decide +kernel⟩ ?_ ?_
      · rintro other ⟨member, missing⟩
        revert other
        decide +kernel
      · rintro one other ⟨written, also, different, rule, found, foundOther⟩
        have separate : ∀ one ∈ ["no-literal", "custom/nope"], ∀ other ∈ ["no-literal", "custom/nope"],
            Rule.bareName one = Rule.bareName other → one = other := by decide +kernel
        have same := (Registry.name_of_get? found).symm.trans (Registry.name_of_get? foundOther)
        exact different (separate one written other also same)
  · obtain ⟨⟨entries, fault | behind⟩, wellFormed, ok, keys, read⟩ := clash
    · cases ok
    · have levels : ∀ entry ∈ entries, ∃ level, Level.ofJson? entry.value = some level := by
        simpa [Option.isSome_iff_exists] using read
      obtain ⟨-, -, -, -, -, pair⟩ := (reports_precise lastEntries_keepsLast
        [NoLiteral.rule, NoFunctionApply.rule, NoButton.rule] _).1 entries behind wellFormed levels
      rw [keys] at pair
      have both : Clash .builtin ["no-literal", "custom/no-literal"] "no-literal" "custom/no-literal" :=
        ⟨by decide, by decide, by decide, NoLiteral.rule, rfl, rfl⟩
      have ends : ∀ first ∈ ["no-literal", "custom/no-literal"], ∀ last ∈ ["no-literal", "custom/no-literal"],
          first ≠ last → first = "no-literal" ∧ last = "custom/no-literal" ∨
            first = "custom/no-literal" ∧ last = "no-literal" := by decide
      have named : ∀ key ∈ ["no-literal", "custom/no-literal"], Registry.builtin.get? key ≠ .none := by
        decide +kernel
      obtain ⟨rule, found, reported⟩ := pair "no-literal" "custom/no-literal" both
        (fun first last ⟨written, also, different, _⟩ => ends first written last also different)
        (fun key ⟨written, missing⟩ => named key written missing)
      rw [Registry.name_of_get? found] at reported
      exact reported
  · obtain ⟨entry, -, -, reported⟩ := (reports_precise lastEntries_keepsLast
      [NoLiteral.rule, NoFunctionApply.rule, NoButton.rule]
      "\x7b\"rules\": \x7b\"nope\": 1, \"no-literal\": 3\x7d\x7d").2 (by decide +kernel)
    exact ⟨entry.value, entry.after, reported⟩

end Config
end ScriptLint
