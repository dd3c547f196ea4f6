import ScriptLint.Lint.Rule

/-! Names with and without the prefix of the plugin. One prefix is removed and no more, so that two names stand for
the same rule only if they are equal or differ by one prefix in front of a name that has none itself. -/

namespace ScriptLint.Rule

theorem bareName_plugin (name : String) : bareName (plugin ++ name) = name := by
  have starts : plugin.toList.isPrefixOf (plugin ++ name).toList = true := by
    rw [List.isPrefixOf_iff_prefix, String.toList_append]
    exact List.prefix_append _ _
  have behind : (plugin ++ name).toList.drop plugin.length = name.toList := by
    rw [String.toList_append]
    exact List.drop_left' rfl
  rw [bareName, if_pos starts, behind, String.ofList_toList]

theorem bareName_of_unprefixed {name : String} (other : ¬ plugin.toList <+: name.toList) : bareName name = name := by
  rw [bareName, if_neg]
  rwa [List.isPrefixOf_iff_prefix]

theorem eq_plugin_append_bareName {name : String} (starts : plugin.toList <+: name.toList) :
    name = plugin ++ bareName name := by
  obtain ⟨behind, parts⟩ := starts
  have split : name = plugin ++ String.ofList behind := by
    rw [← String.toList_inj, String.toList_append, String.toList_ofList, parts]
  rw [split, bareName_plugin]

theorem bareName_eq_iff (one other : String) :
    bareName one = bareName other ↔ one = other ∨
      (one = plugin ++ other ∧ ¬ plugin.toList <+: other.toList) ∨
      (other = plugin ++ one ∧ ¬ plugin.toList <+: one.toList) := by
  constructor
  · intro same
    by_cases onePrefixed : plugin.toList <+: one.toList
    · have whole := eq_plugin_append_bareName onePrefixed
      rw [same] at whole
      by_cases otherPrefixed : plugin.toList <+: other.toList
      · exact .inl (whole.trans (eq_plugin_append_bareName otherPrefixed).symm)
      · rw [bareName_of_unprefixed otherPrefixed] at whole
        exact .inr (.inl ⟨whole, otherPrefixed⟩)
    · rw [bareName_of_unprefixed onePrefixed] at same
      by_cases otherPrefixed : plugin.toList <+: other.toList
      · have whole := eq_plugin_append_bareName otherPrefixed
        rw [← same] at whole
        exact .inr (.inr ⟨whole, onePrefixed⟩)
      · exact .inl (same.trans (bareName_of_unprefixed otherPrefixed))
  · intro related
    rcases related with same | ⟨rfl, bare⟩ | ⟨rfl, bare⟩
    · rw [same]
    · rw [bareName_plugin, bareName_of_unprefixed bare]
    · rw [bareName_plugin, bareName_of_unprefixed bare]

end ScriptLint.Rule
