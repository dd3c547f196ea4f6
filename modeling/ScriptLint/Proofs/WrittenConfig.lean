import ScriptLint.Lint.ConfigText
import ScriptLint.Proofs.ConfigLevel
import ScriptLint.Proofs.RegistryIndex

/-! What a written configuration means: it sets every written key at the level of its last entry. The entries
fill a table that gives out its keys in no particular order, and neither success nor the result depends on
that order. Reading succeeds if every entry has a level, also one that a later entry replaces, every key names
a registered rule and no two keys name the same rule. -/

namespace ScriptLint

namespace Config
open Rule (bareName)

def lastLevel? (entries : List (String × Level)) (key : String) : Option Level :=
  (entries.reverse.find? fun entry => entry.1 = key).map Prod.snd

structure Enumerates (level? : String → Option Level) (listed : List (String × Level)) : Prop where
  distinct : (listed.map Prod.fst).Nodup
  mem_iff : ∀ key level, (key, level) ∈ listed ↔ level? key = some level

theorem Enumerates.mem_keys_iff {level? : String → Option Level} {listed : List (String × Level)}
    (lists : Enumerates level? listed) (key : String) :
    key ∈ listed.map Prod.fst ↔ ∃ level, level? key = some level := by
  simp [← lists.mem_iff]

theorem Enumerates.bareNames_nodup_iff {level? : String → Option Level} {listed : List (String × Level)}
    (lists : Enumerates level? listed) :
    (listed.map fun setting => bareName setting.1).Nodup ↔
      ∀ one ∈ listed.map Prod.fst, ∀ other ∈ listed.map Prod.fst, bareName one = bareName other → one = other := by
  rw [← List.nodup_map_iff_inj_on lists.distinct, List.map_map, Function.comp_def]

/-- Keys of different names are set to the same effect in every order. -/
theorem Enumerates.withRules_eq {level? : String → Option Level} {one other : List (String × Level)}
    (lists : Enumerates level? one) (others : Enumerates level? other)
    (distinct : (one.map fun setting => bareName setting.1).Nodup) :
    none.withRules one = none.withRules other := by
  have same (setting : String × Level) : setting ∈ one ↔ setting ∈ other :=
    (lists.mem_iff setting.1 setting.2).trans (others.mem_iff setting.1 setting.2).symm
  have distinctOther : (other.map fun setting => bareName setting.1).Nodup := by
    have permuted := (List.perm_ext_iff_of_nodup (List.Nodup.of_map _ distinct)
      (List.Nodup.of_map _ others.distinct)).mpr same
    exact (permuted.map _).nodup_iff.mp distinct
  apply ext_stored
  intro name
  apply Option.ext
  intro level
  simp only [stored?_withRules_of_distinct distinct, stored?_withRules_of_distinct distinctOther, same]

/-- A table keeps the last entry of every key. -/
def KeepsLast (table : List (String × Level) → List (String × Level)) : Prop :=
  ∀ entries, Enumerates (lastLevel? entries) (table entries)

theorem getElem?_insertEntries (entries : List (String × Level)) (found : Std.ExtTreeMap String Level)
    (key : String) :
    (entries.foldl (fun found (key, level) => found.insert key level) found)[key]? =
      (lastLevel? entries key).or found[key]? := by
  induction entries generalizing found with
  | nil => rfl
  | cons entry rest ih =>
    rw [List.foldl_cons, ih, Std.ExtTreeMap.getElem?_insert, lastLevel?, lastLevel?, List.reverse_cons,
      List.find?_append]
    cases rest.reverse.find? fun entry => entry.1 = key with
    | some later => rfl
    | none => by_cases same : entry.1 = key <;> simp [same]

theorem lastEntries_keepsLast : KeepsLast lastEntries := by
  intro entries
  constructor
  · rw [List.nodup_iff_pairwise_ne, List.pairwise_map]
    exact Std.ExtTreeMap.distinct_keys_toList.imp fun different => by simpa using different
  · intro key level
    rw [lastEntries, Std.ExtTreeMap.mem_toList_iff_getElem?_eq_some, getElem?_insertEntries]
    simp

section Entries

variable {rules : List Rule} {config : Config} {key : String} {level : Level} {rest : List (String × Level)}

theorem addEntries_of_unknown (unknown : ∀ rule ∈ rules, rule.name ≠ bareName key) :
    addEntries (Registry.ofRules rules) config ((key, level) :: rest) = .error (.unknown key) := by
  rw [addEntries, (Registry.get?_eq_none_iff rules key).mpr unknown]

theorem addEntries_of_present (registered : ∃ rule ∈ rules, rule.name = bareName key)
    (present : bareName key ∈ config.levels) :
    addEntries (Registry.ofRules rules) config ((key, level) :: rest) = .error (.duplicate (bareName key)) := by
  obtain ⟨rule, found⟩ := (Registry.exists_get?_iff rules key).mpr registered
  have same := Registry.name_of_get? found
  simp only [addEntries, found, same, present, if_true]

theorem addEntries_of_fresh (registered : ∃ rule ∈ rules, rule.name = bareName key)
    (fresh : bareName key ∉ config.levels) :
    addEntries (Registry.ofRules rules) config ((key, level) :: rest) =
      addEntries (Registry.ofRules rules) (config.withRule key level) rest := by
  obtain ⟨rule, found⟩ := (Registry.exists_get?_iff rules key).mpr registered
  have same := Registry.name_of_get? found
  simp only [addEntries, found, same, fresh, if_false, withRule]

end Entries

/-- Entries are added if all of them name registered rules, no two of them the same and none a rule that is
set already. Then their rules are set one after the other. -/
theorem addEntries_eq_ok_iff (rules : List Rule) (config : Config) (entries : List (String × Level))
    (result : Config) :
    addEntries (Registry.ofRules rules) config entries = .ok result ↔
      (∀ entry ∈ entries, ∃ rule ∈ rules, rule.name = bareName entry.1) ∧
      (entries.map fun entry => bareName entry.1).Nodup ∧
      (∀ entry ∈ entries, bareName entry.1 ∉ config.levels) ∧ result = config.withRules entries := by
  induction entries generalizing config with
  | nil => simp [addEntries, withRules, eq_comm]
  | cons entry rest ih =>
    obtain ⟨key, level⟩ := entry
    by_cases registered : ∃ rule ∈ rules, rule.name = bareName key
    · by_cases present : bareName key ∈ config.levels
      · rw [addEntries_of_present registered present]
        simp [present]
      · have step : config.withRules ((key, level) :: rest) = (config.withRule key level).withRules rest := rfl
        rw [addEntries_of_fresh registered present, ih, step]
        simp only [List.forall_mem_cons, List.map_cons, List.nodup_cons, List.mem_map, mem_levels_withRule]
        -- That the first name comes once is what the rest finds: it is set by then.
        constructor
        · rintro ⟨named, distinct, fresh, same⟩
          refine ⟨⟨registered, named⟩, ⟨?_, distinct⟩, ⟨present, ?_⟩, same⟩
          · rintro ⟨entry, member, twice⟩
            exact fresh entry member (.inl twice.symm)
          · exact fun entry member set => fresh entry member (.inr set)
        · rintro ⟨⟨-, named⟩, ⟨once, distinct⟩, ⟨-, fresh⟩, same⟩
          refine ⟨named, distinct, ?_, same⟩
          rintro entry member (twice | set)
          · exact once ⟨entry, member, twice.symm⟩
          · exact fresh entry member set
    · rw [addEntries_of_unknown (by simpa using registered)]
      simp only [reduceCtorEq, false_iff]
      rintro ⟨named, -⟩
      exact registered (named (key, level) List.mem_cons_self)

end Config

namespace ConfigText

def lastLevel? (entries : List Entry) (key : String) : Option Level :=
  (entries.reverse.find? fun entry => entry.key = key).bind fun entry => Level.ofJson? entry.value

theorem levels_eq_ok_iff (entries : List Entry) (pairs : List (String × Level)) :
    levels entries = .ok pairs ↔
      (entries.map fun entry => (entry.key, Level.ofJson? entry.value)) =
        pairs.map fun pair => (pair.1, some pair.2) := by
  induction entries generalizing pairs with
  | nil => cases pairs <;> simp [levels]
  | cons entry rest ih =>
    rw [levels]
    cases read : Level.ofJson? entry.value with
    | none => cases pairs <;> simp [read]
    | some level =>
      cases pairs with
      | nil => cases levels rest <;> simp [Except.map]
      | cons pair pairs =>
        rw [List.map_cons, List.map_cons, List.cons.injEq, ← ih, read]
        obtain ⟨key, other⟩ := pair
        cases levels rest <;> simp [Except.map]

theorem exists_levels_iff (entries : List Entry) :
    (∃ pairs, levels entries = .ok pairs) ↔ ∀ entry ∈ entries, ∃ level, Level.ofJson? entry.value = some level := by
  constructor
  · rintro ⟨pairs, read⟩ entry member
    have paired : (entry.key, Level.ofJson? entry.value) ∈ pairs.map fun pair => (pair.1, some pair.2) := by
      rw [← (levels_eq_ok_iff entries pairs).mp read]
      exact List.mem_map_of_mem member
    obtain ⟨pair, _, same⟩ := List.mem_map.mp paired
    exact ⟨pair.2, (congrArg Prod.snd same).symm⟩
  · intro all
    induction entries with
    | nil => exact ⟨[], rfl⟩
    | cons entry rest ih =>
      obtain ⟨level, read⟩ := all entry List.mem_cons_self
      obtain ⟨pairs, later⟩ := ih fun entry member => all entry (List.mem_cons_of_mem _ member)
      refine ⟨(entry.key, level) :: pairs, ?_⟩
      rw [levels, read, later]
      rfl

theorem lastLevel?_levels {entries : List Entry} {pairs : List (String × Level)}
    (read : levels entries = .ok pairs) (key : String) :
    Config.lastLevel? pairs key = lastLevel? entries key := by
  have same := congrArg (fun list => (list.reverse.find? fun pair => pair.1 = key).bind Prod.snd)
    ((levels_eq_ok_iff entries pairs).mp read)
  simp only [← List.map_reverse, List.find?_map, Function.comp_def, Option.bind_map] at same
  rw [Config.lastLevel?, lastLevel?, same]
  exact Option.map_eq_bind

theorem exists_lastLevel?_iff {entries : List Entry}
    (all : ∀ entry ∈ entries, ∃ level, Level.ofJson? entry.value = some level) (key : String) :
    (∃ level, lastLevel? entries key = some level) ↔ key ∈ entries.map Entry.key := by
  rw [List.mem_map]
  constructor
  · rintro ⟨level, last⟩
    obtain ⟨entry, found, _⟩ := Option.bind_eq_some_iff.mp last
    exact ⟨entry, by simpa using List.mem_of_find?_eq_some found, by simpa using List.find?_some found⟩
  · rintro ⟨entry, member, rfl⟩
    cases found : entries.reverse.find? fun other => other.key = entry.key with
    | none =>
      have absent := List.find?_eq_none.mp found entry (by simpa using member)
      simp at absent
    | some last =>
      obtain ⟨level, read⟩ := all last (by simpa using List.mem_of_find?_eq_some found)
      exact ⟨level, by rw [lastLevel?, found, Option.bind_some, read]⟩

end ConfigText

namespace Config
open Rule (bareName)

section Text

variable {table : List (String × Level) → List (String × Level)} {rules : List Rule} {text : String}
  {entries : List ConfigText.Entry} {behind : Json.Cursor}

theorem ofTextBy_eq_ok_iff (wellFormed : ConfigText.read text = ⟨entries, .ok behind⟩) (registry : Registry)
    (config : Config) :
    ofTextBy table registry text = .ok config ↔
      ∃ pairs, ConfigText.levels entries = .ok pairs ∧ addEntries registry none (table pairs) = .ok config := by
  simp only [ofTextBy, wellFormed, ofEntries]
  cases ConfigText.levels entries with
  | error fault => simp
  | ok pairs => cases added : addEntries registry none (table pairs) <;> simp [added, Except.mapError]

theorem enumerates_of_levels (keeps : KeepsLast table) {pairs : List (String × Level)}
    (read : ConfigText.levels entries = .ok pairs) :
    Enumerates (ConfigText.lastLevel? entries) (table pairs) := by
  have same : lastLevel? pairs = ConfigText.lastLevel? entries := funext (ConfigText.lastLevel?_levels read)
  exact same ▸ keeps pairs

theorem mem_keys_iff_written (keeps : KeepsLast table) {pairs : List (String × Level)}
    (read : ConfigText.levels entries = .ok pairs) (key : String) :
    key ∈ (table pairs).map Prod.fst ↔ key ∈ entries.map ConfigText.Entry.key := by
  have all := (ConfigText.exists_levels_iff entries).mp ⟨pairs, read⟩
  rw [(enumerates_of_levels keeps read).mem_keys_iff, ConfigText.exists_lastLevel?_iff all]

theorem exists_ofTextBy_iff (keeps : KeepsLast table)
    (wellFormed : ConfigText.read text = ⟨entries, .ok behind⟩) (rules : List Rule) :
    (∃ config, ofTextBy table (Registry.ofRules rules) text = .ok config) ↔
      (∀ entry ∈ entries, ∃ level, Level.ofJson? entry.value = some level) ∧
      (∀ key ∈ entries.map ConfigText.Entry.key, ∃ rule ∈ rules, rule.name = bareName key) ∧
      (∀ one ∈ entries.map ConfigText.Entry.key, ∀ other ∈ entries.map ConfigText.Entry.key,
        bareName one = bareName other → one = other) := by
  simp only [ofTextBy_eq_ok_iff wellFormed]
  constructor
  · rintro ⟨config, pairs, read, added⟩
    obtain ⟨named, distinct, -⟩ := (addEntries_eq_ok_iff rules none (table pairs) config).mp added
    have separate := (enumerates_of_levels keeps read).bareNames_nodup_iff.mp distinct
    simp only [mem_keys_iff_written keeps read] at separate
    refine ⟨(ConfigText.exists_levels_iff entries).mp ⟨pairs, read⟩, ?_, separate⟩
    intro key written
    obtain ⟨setting, member, rfl⟩ := List.mem_map.mp ((mem_keys_iff_written keeps read key).mpr written)
    exact named setting member
  · rintro ⟨all, named, separate⟩
    obtain ⟨pairs, read⟩ := (ConfigText.exists_levels_iff entries).mpr all
    refine ⟨none.withRules (table pairs), pairs, read, ?_⟩
    refine (addEntries_eq_ok_iff rules none (table pairs) _).mpr ⟨?_, ?_, ?_, rfl⟩
    · intro setting member
      exact named setting.1 ((mem_keys_iff_written keeps read _).mp (List.mem_map_of_mem member))
    · rw [(enumerates_of_levels keeps read).bareNames_nodup_iff]
      simpa only [mem_keys_iff_written keeps read] using separate
    · intro setting _
      exact Std.ExtTreeMap.not_mem_empty

theorem eq_withRules_of_ofTextBy (keeps : KeepsLast table)
    (wellFormed : ConfigText.read text = ⟨entries, .ok behind⟩) {config : Config}
    (success : ofTextBy table (Registry.ofRules rules) text = .ok config) {listed : List (String × Level)}
    (lists : Enumerates (ConfigText.lastLevel? entries) listed) : config = none.withRules listed := by
  obtain ⟨pairs, read, added⟩ := (ofTextBy_eq_ok_iff wellFormed _ config).mp success
  obtain ⟨-, distinct, -, rfl⟩ := (addEntries_eq_ok_iff rules none (table pairs) config).mp added
  exact (enumerates_of_levels keeps read).withRules_eq lists distinct

theorem stored?_of_ofTextBy (keeps : KeepsLast table)
    (wellFormed : ConfigText.read text = ⟨entries, .ok behind⟩) {config : Config}
    (success : ofTextBy table (Registry.ofRules rules) text = .ok config) (name : String) (level : Level) :
    config.stored? name = some level ↔
      ∃ key, ConfigText.lastLevel? entries key = some level ∧ bareName key = name := by
  obtain ⟨pairs, read, added⟩ := (ofTextBy_eq_ok_iff wellFormed _ config).mp success
  obtain ⟨-, distinct, -, rfl⟩ := (addEntries_eq_ok_iff rules none (table pairs) config).mp added
  simp [stored?_withRules_of_distinct distinct, (enumerates_of_levels keeps read).mem_iff]

theorem mem_levels_of_ofTextBy (keeps : KeepsLast table)
    (wellFormed : ConfigText.read text = ⟨entries, .ok behind⟩) {config : Config}
    (success : ofTextBy table (Registry.ofRules rules) text = .ok config) (name : String) :
    name ∈ config.levels ↔ ∃ key ∈ entries.map ConfigText.Entry.key, bareName key = name := by
  have all := ((exists_ofTextBy_iff keeps wellFormed rules).mp ⟨config, success⟩).1
  have stored := stored?_of_ofTextBy keeps wellFormed success name
  rw [Std.ExtTreeMap.mem_iff_isSome_getElem?, Option.isSome_iff_exists]
  simp only [← ConfigText.exists_lastLevel?_iff all]
  constructor
  · rintro ⟨level, holds⟩
    obtain ⟨key, last, same⟩ := (stored level).mp holds
    exact ⟨key, ⟨level, last⟩, same⟩
  · rintro ⟨key, ⟨level, last⟩, same⟩
    exact ⟨level, (stored level).mpr ⟨key, last, same⟩⟩

/-- Reading a well-formed text succeeds if and only if every entry has a level, every key without the prefix
names a registered rule and no two keys are equal without it. Then it gives what setting the written keys at
the levels of their last entries gives, in any order, so that every written key has its level, all other names
are off and nothing is stored for them. -/
theorem ofTextBy_eq_withRules (keeps : KeepsLast table)
    (wellFormed : ConfigText.read text = ⟨entries, .ok behind⟩) (rules : List Rule) :
    ((∃ config, ofTextBy table (Registry.ofRules rules) text = .ok config) ↔
      (∀ entry ∈ entries, ∃ level, Level.ofJson? entry.value = some level) ∧
      (∀ key ∈ entries.map ConfigText.Entry.key, ∃ rule ∈ rules, rule.name = bareName key) ∧
      (∀ one ∈ entries.map ConfigText.Entry.key, ∀ other ∈ entries.map ConfigText.Entry.key,
        bareName one = bareName other → one = other)) ∧
    ∀ config, ofTextBy table (Registry.ofRules rules) text = .ok config →
      (∀ listed, Enumerates (ConfigText.lastLevel? entries) listed → config = none.withRules listed) ∧
      (∀ key ∈ entries.map ConfigText.Entry.key,
        ConfigText.lastLevel? entries key = some (config.level key)) ∧
      (∀ name, (∀ key ∈ entries.map ConfigText.Entry.key, bareName key ≠ bareName name) →
        config.level name = .off ∧ config.stored? (bareName name) = .none) ∧
      ∀ name, name ∈ config.levels ↔ ∃ key ∈ entries.map ConfigText.Entry.key, bareName key = name := by
  refine ⟨exists_ofTextBy_iff keeps wellFormed rules, ?_⟩
  intro config success
  have all := ((exists_ofTextBy_iff keeps wellFormed rules).mp ⟨config, success⟩).1
  have names := mem_levels_of_ofTextBy keeps wellFormed success
  refine ⟨fun listed lists => eq_withRules_of_ofTextBy keeps wellFormed success lists, ?_, ?_, names⟩
  · intro key member
    obtain ⟨level, last⟩ := (ConfigText.exists_lastLevel?_iff all key).mpr member
    have holds := (stored?_of_ofTextBy keeps wellFormed success (bareName key) level).mpr ⟨key, last, rfl⟩
    rw [last, Config.level, holds, Option.getD_some]
  · intro name different
    have absent : config.stored? (bareName name) = .none := by
      apply Std.ExtTreeMap.getElem?_eq_none
      rw [names]
      rintro ⟨key, member, same⟩
      exact different key member same
    exact ⟨by rw [Config.level, absent, Option.getD_none], absent⟩

theorem ofTextBy_eq_withRules_repeated_key :
    ∃ config, ofTextBy lastEntries .builtin
        "\x7b\"rules\": \x7b\"no-literal\": 1, \"custom/no-jsx-button\": 0, \"no-literal\": [\"error\"]\x7d\x7d" =
          .ok config ∧
      config.level "no-literal" = .error ∧ config.level "no-function-apply" = .off ∧
      config.stored? "no-function-apply" = .none := by
  have fits : ∃ reading, ConfigText.read
      "\x7b\"rules\": \x7b\"no-literal\": 1, \"custom/no-jsx-button\": 0, \"no-literal\": [\"error\"]\x7d\x7d" =
        reading ∧
      reading.outcome.toBool ∧
      reading.entries.map ConfigText.Entry.key = ["no-literal", "custom/no-jsx-button", "no-literal"] ∧
      reading.entries.all (fun entry => (Level.ofJson? entry.value).isSome) ∧
      ConfigText.lastLevel? reading.entries "no-literal" = some .error :=
    ⟨_, rfl, by decide +kernel⟩
  obtain ⟨⟨entries, fault | behind⟩, wellFormed, ok, keys, read, last⟩ := fits
  · cases ok
  · have levels : ∀ entry ∈ entries, ∃ level, Level.ofJson? entry.value = some level := by
      simpa [Option.isSome_iff_exists] using read
    obtain ⟨condition, means⟩ := ofTextBy_eq_withRules lastEntries_keepsLast wellFormed
      [NoLiteral.rule, NoFunctionApply.rule, NoButton.rule]
    rw [keys] at condition means
    obtain ⟨config, success⟩ := condition.mpr ⟨levels, by decide +kernel, by decide +kernel⟩
    obtain ⟨-, written, others, -⟩ := means config success
    have level := written "no-literal" (by simp)
    obtain ⟨off, absent⟩ := others "no-function-apply" (by decide +kernel)
    rw [last] at level
    exact ⟨config, success, (Option.some.inj level).symm, off, absent⟩

end Text
end Config
end ScriptLint
