import Mathlib.Data.List.Induction
import Mathlib.Order.Bounds.Basic
import ScriptLint.Lint.Registry
import ScriptLint.Proofs.PluginPrefix

/-! Looking up rules by their names. A place in the index lies in the list of rules and holds a rule of that
name, and no later rule has it, so that a lookup finds the last rule of a name. -/

namespace ScriptLint.Registry
open Rule (bareName plugin)

theorem index_concat (rules : List Rule) (rule : Rule) :
    index (rules ++ [rule]) = (index rules).insert rule.name rules.length := by
  simp [index, List.zipIdx_append]

def namedPlaces (rules : List Rule) (name : String) : Set Nat :=
  { place | ∃ rule, rules[place]? = some rule ∧ rule.name = name }

theorem lt_length_of_mem_namedPlaces {rules : List Rule} {name : String} {place : Nat}
    (named : place ∈ namedPlaces rules name) : place < rules.length := by
  obtain ⟨rule, there, _⟩ := named
  exact (List.getElem?_eq_some_iff.mp there).1

theorem mem_namedPlaces_concat (rules : List Rule) (rule : Rule) (name : String) (place : Nat) :
    place ∈ namedPlaces (rules ++ [rule]) name ↔
      place ∈ namedPlaces rules name ∨ place = rules.length ∧ rule.name = name := by
  simp only [namedPlaces, Set.mem_ofPred_eq]
  rcases Nat.lt_trichotomy place rules.length with before | atEnd | behind
  · simp [List.getElem?_append_left before, before.ne]
  · simp [atEnd]
  · have absent : (rules ++ [rule])[place]? = none := by
      rw [List.getElem?_eq_none_iff, List.length_append]
      exact behind
    simp [absent, List.getElem?_eq_none behind.le, behind.ne']

/-- The index holds the last place of each name. -/
theorem getElem?_index_iff (rules : List Rule) (name : String) (place : Nat) :
    (index rules)[name]? = some place ↔ IsGreatest (namedPlaces rules name) place := by
  induction rules using List.reverseRecOn with
  | nil => simp [index, namedPlaces, IsGreatest]
  | append_singleton rules rule ih =>
    rw [index_concat, Std.ExtTreeMap.getElem?_insert]
    by_cases same : rule.name = name
    · have last : IsGreatest (namedPlaces (rules ++ [rule]) name) rules.length := by
        refine ⟨(mem_namedPlaces_concat ..).mpr (.inr ⟨rfl, same⟩), ?_⟩
        intro other member
        have inside := lt_length_of_mem_namedPlaces member
        rw [List.length_append, List.length_singleton] at inside
        omega
      rw [if_pos (Std.compare_eq_iff_eq.mpr same), Option.some.injEq]
      constructor
      · intro atEnd
        rwa [← atEnd]
      · exact fun greatest => last.unique greatest
    · have unchanged : namedPlaces (rules ++ [rule]) name = namedPlaces rules name := by
        ext other
        simp [mem_namedPlaces_concat, same]
      rw [if_neg fun equal => same (Std.compare_eq_iff_eq.mp equal), ih, unchanged]

theorem mem_index_iff (rules : List Rule) (name : String) :
    name ∈ index rules ↔ ∃ rule ∈ rules, rule.name = name := by
  induction rules using List.reverseRecOn with
  | nil => simp [index]
  | append_singleton rules rule ih =>
    rw [index_concat, Std.ExtTreeMap.mem_insert, ih]
    simp [or_comm]

theorem lt_length_of_index {rules : List Rule} {name : String} {place : Nat}
    (found : (index rules)[name]? = some place) : place < rules.length :=
  lt_length_of_mem_namedPlaces ((getElem?_index_iff rules name place).mp found).1

theorem get?_concat (rules : List Rule) (rule : Rule) (key : String) :
    (ofRules (rules ++ [rule])).get? key =
      if rule.name = bareName key then some rule else (ofRules rules).get? key := by
  simp only [get?, ofRules, index_concat, Std.ExtTreeMap.getElem?_insert, Std.compare_eq_iff_eq]
  split
  · simp
  · cases found : (index rules)[bareName key]? with
    | none => rfl
    | some place => simp [List.getElem?_append_left (lt_length_of_index found)]

/-- A lookup finds the last rule of the name. -/
theorem get?_ofRules (rules : List Rule) (key : String) :
    (ofRules rules).get? key = rules.reverse.find? fun rule => rule.name = bareName key := by
  induction rules using List.reverseRecOn with
  | nil => simp [get?, ofRules, index]
  | append_singleton rules rule ih =>
    rw [get?_concat, ih, List.reverse_append, List.reverse_singleton, List.singleton_append, List.find?_cons]
    by_cases same : rule.name = bareName key <;> simp [same]

theorem name_of_get? {rules : List Rule} {key : String} {rule : Rule}
    (found : (ofRules rules).get? key = some rule) : rule.name = bareName key := by
  rw [get?_ofRules] at found
  simpa using List.find?_some found

theorem mem_of_get? {rules : List Rule} {key : String} {rule : Rule}
    (found : (ofRules rules).get? key = some rule) : rule ∈ rules := by
  rw [get?_ofRules] at found
  exact List.mem_reverse.mp (List.mem_of_find?_eq_some found)

theorem get?_congr (registry : Registry) {key other : String} (same : bareName key = bareName other) :
    registry.get? key = registry.get? other := by
  rw [get?, get?, same]

theorem get?_eq_none_iff (rules : List Rule) (key : String) :
    (ofRules rules).get? key = none ↔ ∀ rule ∈ rules, rule.name ≠ bareName key := by
  simp [get?_ofRules]

theorem exists_get?_iff (rules : List Rule) (key : String) :
    (∃ rule, (ofRules rules).get? key = some rule) ↔ ∃ rule ∈ rules, rule.name = bareName key := by
  simp [← Option.isSome_iff_exists, get?_ofRules]

theorem get?_eq_some_iff (rules : List Rule) (key : String) (rule : Rule) :
    (ofRules rules).get? key = some rule ↔ ∃ before after, rules = before ++ rule :: after ∧
      rule.name = bareName key ∧ ∀ later ∈ after, later.name ≠ bareName key := by
  rw [get?_ofRules, List.find?_eq_some_iff_append]
  constructor
  · intro ⟨named, behind, ahead, parts, others⟩
    refine ⟨ahead.reverse, behind.reverse, ?_, by simpa using named, by simpa using others⟩
    rw [← List.reverse_reverse rules, parts, List.reverse_append, List.reverse_cons, List.append_assoc,
      List.singleton_append]
  · intro ⟨before, after, parts, named, others⟩
    refine ⟨by simpa using named, after.reverse, before.reverse, ?_, by simpa using others⟩
    rw [parts, List.reverse_append, List.reverse_cons, List.append_assoc, List.singleton_append]

/-- The rule at the place that the index has for the name is found, whatever the name. -/
theorem exists_rule_of_index {rules : List Rule} {key : String} {place : Nat}
    (found : (index rules)[bareName key]? = some place) :
    ∃ rule, rules[place]? = some rule ∧ (ofRules rules).get? key = some rule := by
  obtain ⟨rule, there, _⟩ := ((getElem?_index_iff rules _ place).mp found).1
  refine ⟨rule, there, ?_⟩
  rw [get?, ofRules, found, Option.bind_some, there]

/-- The index has a place for the name of every rule and for no other name. The place is one of the list, a rule of the
name stands there, and none stands behind it. So a lookup never misses the list. It finds the last rule of a name, if
there is one, and it finds the same by a name with the prefix of the plugin as by that name without it. -/
theorem index_holds_last_places (rules : List Rule) :
    let registry := ofRules rules
    (∀ name place, registry.byName[name]? = some place → ∃ inside : place < rules.length,
      rules[place].name = name ∧
        ∀ later (further : later < rules.length), place < later → rules[later].name ≠ name) ∧
    (∀ name, name ∈ registry.byName ↔ ∃ rule ∈ rules, rule.name = name) ∧
    (∀ key place, registry.byName[bareName key]? = some place →
      ∃ rule, rules[place]? = some rule ∧ registry.get? key = some rule) ∧
    (∀ key rule, registry.get? key = some rule ↔ ∃ before after, rules = before ++ rule :: after ∧
      rule.name = bareName key ∧ ∀ later ∈ after, later.name ≠ bareName key) ∧
    (∀ key, registry.get? key = none ↔ ∀ rule ∈ rules, rule.name ≠ bareName key) ∧
    (∀ key, registry.contains key = true ↔ ∃ rule, registry.get? key = some rule) ∧
    ∀ key, ¬ plugin.toList <+: key.toList → registry.get? key = registry.get? (plugin ++ key) := by
  intro registry
  refine ⟨?_, mem_index_iff rules, fun key place => exists_rule_of_index, get?_eq_some_iff rules,
    get?_eq_none_iff rules, fun key => Option.isSome_iff_exists, ?_⟩
  · intro name place found
    obtain ⟨⟨rule, there, named⟩, last⟩ := (getElem?_index_iff rules name place).mp found
    obtain ⟨inside, same⟩ := List.getElem?_eq_some_iff.mp there
    refine ⟨inside, by rw [same, named], ?_⟩
    intro later further behind twice
    have notBehind : later ≤ place := last ⟨_, List.getElem?_eq_getElem further, twice⟩
    omega
  · intro key bare
    apply get?_congr
    rw [Rule.bareName_plugin, Rule.bareName_of_unprefixed bare]

end ScriptLint.Registry
