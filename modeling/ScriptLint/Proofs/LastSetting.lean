import Mathlib.Data.Nat.SuccPred
import ScriptLint.Proofs.ConfigLevel
import ScriptLint.Proofs.PluginPrefix

/-! Setting rules one after the other. The last setting of a rule is the one that counts, under whichever of its two
names it is made. What is stored in the end decides whether two sequences of settings are equal, and there a rule that
is stored as off differs from one that is not stored, although both are off. -/

namespace ScriptLint.Config
open Rule (bareName plugin)

def settingPlaces (settings : List (String × Level)) (name : String) : Set Nat :=
  { place | ∃ setting, settings[place]? = some setting ∧ bareName setting.1 = bareName name }

theorem withRules_cons (config : Config) (setting : String × Level) (rest : List (String × Level)) :
    config.withRules (setting :: rest) = (config.withRule setting.1 setting.2).withRules rest := rfl

theorem withRules_append (config : Config) (one other : List (String × Level)) :
    config.withRules (one ++ other) = (config.withRules one).withRules other := List.foldl_append

theorem stored?_withRules_of_absent (config : Config) {settings : List (String × Level)} {key : String}
    (absent : ∀ setting ∈ settings, bareName setting.1 ≠ key) :
    (config.withRules settings).stored? key = config.stored? key := by
  induction settings generalizing config with
  | nil => rfl
  | cons setting rest ih =>
    obtain ⟨different, later⟩ := List.forall_mem_cons.mp absent
    rw [withRules_cons, ih _ later, stored?_withRule, if_neg different]

theorem stored?_withRules_of_last (config : Config) (before : List (String × Level)) (setting : String × Level)
    {after : List (String × Level)} (last : ∀ later ∈ after, bareName later.1 ≠ bareName setting.1) :
    (config.withRules (before ++ setting :: after)).stored? (bareName setting.1) = some setting.2 := by
  rw [withRules_append, withRules_cons, stored?_withRules_of_absent _ last, stored?_withRule, if_pos rfl]

theorem level_withRules_of_greatest (config : Config) {settings : List (String × Level)} {name : String}
    {place : Nat} {setting : String × Level} (greatest : IsGreatest (settingPlaces settings name) place)
    (there : settings[place]? = some setting) : (config.withRules settings).level name = setting.2 := by
  obtain ⟨⟨found, same, names⟩, bound⟩ := greatest
  cases same.symm.trans there
  obtain ⟨inside, atPlace⟩ := List.getElem?_eq_some_iff.mp there
  have parts : settings = settings.take place ++ setting :: settings.drop (place + 1) := by
    rw [← atPlace, List.getElem_cons_drop, List.take_append_drop]
  have last : ∀ later ∈ settings.drop (place + 1), bareName later.1 ≠ bareName setting.1 := by
    intro later member twice
    obtain ⟨offset, holds⟩ := List.mem_iff_getElem?.mp member
    rw [List.getElem?_drop] at holds
    have notAfter : place + 1 + offset ≤ place := bound ⟨later, holds, twice.trans names⟩
    omega
  have stored := config.stored?_withRules_of_last (settings.take place) setting last
  rw [← parts, names] at stored
  rw [level, stored, Option.getD_some]

theorem level_withRules_of_empty (config : Config) {settings : List (String × Level)} {name : String}
    (unset : settingPlaces settings name = ∅) : (config.withRules settings).level name = config.level name := by
  have absent : ∀ setting ∈ settings, bareName setting.1 ≠ bareName name := by
    intro setting member names
    obtain ⟨place, there⟩ := List.mem_iff_getElem?.mp member
    have inside : place ∈ settingPlaces settings name := ⟨setting, there, names⟩
    rw [unset] at inside
    exact inside
  rw [level, level, stored?_withRules_of_absent config absent]

theorem exists_isGreatest_settingPlaces {settings : List (String × Level)} {name : String}
    (set : (settingPlaces settings name).Nonempty) : ∃ place, IsGreatest (settingPlaces settings name) place := by
  have bounded : BddAbove (settingPlaces settings name) := by
    refine ⟨settings.length, ?_⟩
    intro place ⟨setting, there, _⟩
    obtain ⟨inside, _⟩ := List.getElem?_eq_some_iff.mp there
    exact inside.le
  exact bounded.exists_isGreatest_of_nonempty set

theorem level_withRules_cases (config : Config) (settings : List (String × Level)) (name : String) :
    (settingPlaces settings name = ∅ ∧ (config.withRules settings).level name = config.level name) ∨
      ∃ place setting, IsGreatest (settingPlaces settings name) place ∧ settings[place]? = some setting ∧
        (config.withRules settings).level name = setting.2 := by
  rcases (settingPlaces settings name).eq_empty_or_nonempty with unset | set
  · exact .inl ⟨unset, level_withRules_of_empty config unset⟩
  · obtain ⟨place, greatest⟩ := exists_isGreatest_settingPlaces set
    obtain ⟨setting, there, _⟩ := greatest.1
    exact .inr ⟨place, setting, greatest, there, level_withRules_of_greatest config greatest there⟩

/-- Only what is stored for the names that are set can differ. -/
theorem withRules_eq_iff (config : Config) (one other : List (String × Level)) :
    config.withRules one = config.withRules other ↔ ∀ setting ∈ one ++ other,
      (config.withRules one).stored? (bareName setting.1) = (config.withRules other).stored? (bareName setting.1) := by
  constructor
  · intro same setting _
    rw [same]
  · intro agree
    apply ext_stored
    intro key
    by_cases set : ∃ setting ∈ one ++ other, bareName setting.1 = key
    · obtain ⟨setting, member, rfl⟩ := set
      exact agree setting member
    · have absent : ∀ setting ∈ one ++ other, bareName setting.1 ≠ key := by simpa using set
      obtain ⟨absentOne, absentOther⟩ := List.forall_mem_append.mp absent
      rw [stored?_withRules_of_absent config absentOne, stored?_withRules_of_absent config absentOther]

theorem withRule_comm (config : Config) {one other : String} (different : bareName one ≠ bareName other)
    (level change : Level) :
    (config.withRule one level).withRule other change = (config.withRule other change).withRule one level := by
  apply ext_stored
  intro key
  simp only [stored?_withRule]
  by_cases first : bareName one = key
  · have second : bareName other ≠ key := fun same => different (first.trans same.symm)
    rw [if_neg second, if_pos first, if_pos first]
  · rw [if_neg first, if_neg first]

theorem withRule_withRule (config : Config) {one other : String} (same : bareName one = bareName other)
    (level change : Level) : (config.withRule one level).withRule other change = config.withRule other change := by
  apply ext_stored
  intro key
  simp only [stored?_withRule, same]
  by_cases set : bareName other = key
  · rw [if_pos set, if_pos set]
  · rw [if_neg set, if_neg set, if_neg set]

theorem withRule_off_ne (config : Config) {name : String} (unset : config.stored? (bareName name) = .none) :
    config.withRule name .off ≠ config := by
  intro same
  have stored := stored?_withRule config name .off (bareName name)
  rw [same, unset, if_pos rfl] at stored
  contradiction

theorem level_withRule_off (config : Config) {name : String} (unset : config.stored? (bareName name) = .none)
    (asked : String) : (config.withRule name .off).level asked = config.level asked := by
  rw [level_withRule]
  by_cases same : bareName name = bareName asked
  · rw [if_pos same, level, ← same, unset, Option.getD_none]
  · rw [if_neg same]

theorem isEnabled_iff (config : Config) (name : String) : config.isEnabled name = true ↔ config.level name ≠ .off := by
  simp [isEnabled, Level.isEnabled]

/-- A rule has the level of its last setting, and the one that it started with if it is never set. Two sequences of
settings have the same effect if and only if they leave the same stored for each name that one of them sets. So
settings of different rules can change places, and a setting that the next one replaces makes no difference. Names are
of the same rule only if they are equal or differ by one prefix; a second prefix makes another name. -/
theorem last_setting_counts (config : Config) (settings : List (String × Level)) :
    (∀ name, (settingPlaces settings name = ∅ ∧ (config.withRules settings).level name = config.level name) ∨
      ∃ place setting, IsGreatest (settingPlaces settings name) place ∧ settings[place]? = some setting ∧
        (config.withRules settings).level name = setting.2) ∧
    (∀ name, (config.withRules settings).isEnabled name = true ↔ (config.withRules settings).level name ≠ .off) ∧
    (∀ others, config.withRules settings = config.withRules others ↔ ∀ setting ∈ settings ++ others,
      (config.withRules settings).stored? (bareName setting.1) =
        (config.withRules others).stored? (bareName setting.1)) ∧
    (∀ name, config.stored? (bareName name) = .none → config.withRule name .off ≠ config ∧
      ∀ asked, (config.withRule name .off).level asked = config.level asked) ∧
    (∀ one other after, bareName one.1 ≠ bareName other.1 →
      config.withRules (settings ++ one :: other :: after) = config.withRules (settings ++ other :: one :: after)) ∧
    (∀ one other after, bareName one.1 = bareName other.1 →
      config.withRules (settings ++ one :: other :: after) = config.withRules (settings ++ other :: after)) ∧
    (∀ name, bareName (plugin ++ name) = name) ∧
    (∀ one other, bareName one = bareName other ↔ one = other ∨
      (one = plugin ++ other ∧ ¬ plugin.toList <+: other.toList) ∨
      (other = plugin ++ one ∧ ¬ plugin.toList <+: one.toList)) ∧
    ∀ name other, ¬ plugin.toList <+: other.toList →
      bareName (plugin ++ (plugin ++ name)) ≠ bareName (plugin ++ other) := by
  refine ⟨level_withRules_cases config settings, fun name => isEnabled_iff _ name, withRules_eq_iff config settings,
    ?_, ?_, ?_, Rule.bareName_plugin, Rule.bareName_eq_iff, ?_⟩
  · intro name unset
    exact ⟨withRule_off_ne config unset, level_withRule_off config unset⟩
  · intro one other after different
    rw [withRules_append, withRules_append]
    simp only [withRules_cons, withRule_comm _ different]
  · intro one other after same
    rw [withRules_append, withRules_append]
    simp only [withRules_cons, withRule_withRule _ same]
  · intro name other bare same
    rw [Rule.bareName_plugin, Rule.bareName_plugin] at same
    rw [← same, String.toList_append] at bare
    exact bare (List.prefix_append _ _)

end ScriptLint.Config
