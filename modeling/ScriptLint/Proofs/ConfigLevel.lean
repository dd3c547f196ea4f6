import Mathlib.Data.List.Nodup
import ScriptLint.Lint.Config

/-! What a configuration holds after rules have been set. Setting and asking both remove the prefix of the
plugin once, so that a name is set for all names that are equal to it without the prefix. -/

namespace ScriptLint

theorem Level.isEnabled_iff {level : Level} :
    level.isEnabled = true ↔ ∃ severity, level.severity? = some severity := by
  cases level <;> simp [isEnabled, severity?]

namespace Config
open Rule (bareName)

theorem ext_stored {one other : Config} (same : ∀ name, one.stored? name = other.stored? name) :
    one = other := by
  cases one
  cases other
  exact congrArg Config.mk (Std.ExtTreeMap.ext_getElem? fun {name} => same name)

theorem stored?_none (name : String) : none.stored? name = .none := Std.ExtTreeMap.getElem?_empty

theorem stored?_withRule (config : Config) (name : String) (level : Level) (key : String) :
    (config.withRule name level).stored? key = if bareName name = key then some level else config.stored? key := by
  simp [stored?, withRule, Std.ExtTreeMap.getElem?_insert]

theorem mem_levels_withRule (config : Config) (key : String) (level : Level) (name : String) :
    name ∈ (config.withRule key level).levels ↔ bareName key = name ∨ name ∈ config.levels := by
  simp [withRule, Std.ExtTreeMap.mem_insert]

theorem level_none (name : String) : none.level name = .off := by
  rw [level, stored?_none]
  rfl

theorem level_withRule (config : Config) (name : String) (level : Level) (asked : String) :
    (config.withRule name level).level asked =
      if bareName name = bareName asked then level else config.level asked := by
  unfold Config.level
  rw [stored?_withRule]
  split <;> rfl

theorem level_congr (config : Config) {name other : String} (same : bareName name = bareName other) :
    config.level name = config.level other := by
  unfold level
  rw [same]

def withRules (config : Config) (settings : List (String × Level)) : Config :=
  settings.foldl (fun config setting => config.withRule setting.1 setting.2) config

/-- What is stored for a name is the last setting of it, and otherwise what was stored before. -/
theorem stored?_withRules (config : Config) (settings : List (String × Level)) (key : String) :
    (config.withRules settings).stored? key =
      ((settings.reverse.find? fun setting => bareName setting.1 = key).map Prod.snd).or (config.stored? key) := by
  induction settings generalizing config with
  | nil => rfl
  | cons setting rest ih =>
    change ((config.withRule setting.1 setting.2).withRules rest).stored? key = _
    rw [ih, stored?_withRule, List.reverse_cons, List.find?_append]
    cases rest.reverse.find? fun setting => bareName setting.1 = key with
    | some later => rfl
    | none => by_cases same : bareName setting.1 = key <;> simp [same]

theorem stored?_withRules_of_distinct {settings : List (String × Level)}
    (distinct : (settings.map fun setting => bareName setting.1).Nodup) (key : String) (level : Level) :
    (none.withRules settings).stored? key = some level ↔
      ∃ setting ∈ settings, bareName setting.1 = key ∧ setting.2 = level := by
  rw [stored?_withRules, stored?_none, Option.or_none, Option.map_eq_some_iff]
  constructor
  · rintro ⟨setting, found, rfl⟩
    exact ⟨setting, by simpa using List.mem_of_find?_eq_some found, by simpa using List.find?_some found, rfl⟩
  · rintro ⟨setting, member, rfl, rfl⟩
    cases found : settings.reverse.find? fun other => bareName other.1 = bareName setting.1 with
    | none =>
      have absent := List.find?_eq_none.mp found setting (by simpa using member)
      simp at absent
    | some other =>
      have same : bareName other.1 = bareName setting.1 := by simpa using List.find?_some found
      have inside : other ∈ settings := by simpa using List.mem_of_find?_eq_some found
      exact ⟨other, rfl, congrArg Prod.snd (List.inj_on_of_nodup_map distinct inside member same)⟩

end Config
end ScriptLint
