import ScriptLint.Proofs.ConfigLevel
import ScriptLint.Proofs.Dispatch

/-! The findings of a name depend only on the rules of that name, in their order, and on the level at which it
is set. Names are compared without the prefix of the plugin. So other rules may be added, left out, moved and
set as one likes, and one rule can be looked at by itself. -/

namespace ScriptLint
open Rule (bareName)

theorem filter_flatMap_decided {A B : Type} {given : A → List B} {kept : B → Bool} {chosen : A → Bool}
    (items : List A) (decided : ∀ item, ∀ each ∈ given item, kept each = chosen item) :
    (items.flatMap given).filter kept = (items.filter chosen).flatMap given := by
  induction items with
  | nil => rfl
  | cons item rest ih =>
    rw [List.flatMap_cons, List.filter_append, ih]
    cases choice : chosen item with
    | true =>
      have all : (given item).filter kept = given item :=
        List.filter_eq_self.mpr fun each member => (decided item each member).trans choice
      rw [all, List.filter_cons_of_pos choice, List.flatMap_cons]
    | false =>
      have nothing : (given item).filter kept = [] :=
        List.filter_eq_nil_iff.mpr fun each member => by simp [decided item each member, choice]
      rw [nothing, List.nil_append, List.filter_cons_of_neg (by simp [choice])]

def Registry.rulesNamed (registry : Registry) (name : String) : List Rule :=
  registry.rules.filter fun rule => bareName rule.name = bareName name

def Report.findingsNamed (report : Report) (name : String) : List Finding :=
  report.findings.filter fun finding => bareName finding.rule = bareName name

namespace Rule

theorem name_of_findingsAt {config : Config} {dialect : Dialect} {site : Site} {rule : Rule}
    {finding : Finding} (reported : finding ∈ rule.findingsAt config dialect site) :
    finding.rule = rule.name := by
  obtain ⟨severity, -, visitor, -, -, span, -, rfl⟩ := mem_findingsAt_iff.mp reported
  rfl

theorem findingsAt_congr {one other : Config} {rule : Rule} (same : one.level rule.name = other.level rule.name)
    (dialect : Dialect) (site : Site) :
    rule.findingsAt one dialect site = rule.findingsAt other dialect site := by
  unfold findingsAt
  rw [same]

end Rule

namespace Registry

theorem name_of_mem_rulesNamed {registry : Registry} {name : String} {rule : Rule}
    (member : rule ∈ registry.rulesNamed name) : bareName rule.name = bareName name := by
  simpa using (List.mem_filter.mp member).2

theorem findingsNamed_eq (registry : Registry) (config : Config) (name source : String) (dialect : Dialect)
    (program : Program) :
    (registry.run config source dialect program).findingsNamed name =
      program.sites.flatMap fun site =>
        (registry.rulesNamed name).flatMap (Rule.findingsAt config dialect site) := by
  rw [Report.findingsNamed, run_findings, List.filter_flatMap]
  apply List.flatMap_congr
  intro site _
  apply filter_flatMap_decided
  intro rule finding reported
  rw [Rule.name_of_findingsAt reported]

theorem findingsNamed_congr {first second : Registry} {one other : Config} {name : String}
    (sameRules : first.rulesNamed name = second.rulesNamed name) (sameLevel : one.level name = other.level name)
    (source : String) (dialect : Dialect) (program : Program) :
    (first.run one source dialect program).findingsNamed name =
      (second.run other source dialect program).findingsNamed name := by
  rw [findingsNamed_eq, findingsNamed_eq, sameRules]
  apply List.flatMap_congr
  intro site _
  apply List.flatMap_congr
  intro rule member
  -- The rule may be written with the prefix where the name is not, and is looked up without it.
  have named := name_of_mem_rulesNamed member
  apply Rule.findingsAt_congr
  rw [one.level_congr named, other.level_congr named, sameLevel]

theorem rulesNamed_insert {front back : List Rule} {added : Rule} {name : String}
    (different : bareName added.name ≠ bareName name) :
    (ofRules (front ++ added :: back)).rulesNamed name = (ofRules (front ++ back)).rulesNamed name := by
  simp [rulesNamed, ofRules, different]

/-- The findings of a name are the same in two runs that have the same rules of that name, in the same order,
and set it at the same level. So they are those of the rule alone, and neither setting a rule of another name
nor adding or removing one makes a difference. -/
theorem findingsNamed_run {first second : Registry} {one other : Config} {name : String}
    (sameRules : first.rulesNamed name = second.rulesNamed name) (sameLevel : one.level name = other.level name)
    (source : String) (dialect : Dialect) (program : Program) :
    (first.run one source dialect program).findingsNamed name =
        (second.run other source dialect program).findingsNamed name ∧
      (first.run one source dialect program).findingsNamed name =
        (first.run (Config.none.withRule name (one.level name)) source dialect program).findingsNamed name ∧
      (∀ changed level, bareName changed ≠ bareName name →
        (first.run (one.withRule changed level) source dialect program).findingsNamed name =
          (first.run one source dialect program).findingsNamed name) ∧
      (∀ front back added, first.rules = front ++ back → bareName added.name ≠ bareName name →
        ((ofRules (front ++ added :: back)).run one source dialect program).findingsNamed name =
          (first.run one source dialect program).findingsNamed name) := by
  refine ⟨findingsNamed_congr sameRules sameLevel source dialect program, ?_, ?_, ?_⟩
  · apply findingsNamed_congr rfl
    rw [Config.level_withRule, if_pos rfl]
  · intro changed level different
    apply findingsNamed_congr rfl
    rw [Config.level_withRule, if_neg different]
  · intro front back added parts different
    apply findingsNamed_congr _ rfl
    rw [rulesNamed_insert different]
    simp [rulesNamed, ofRules, parts]

theorem findingsNamed_run_apply :
    let program : Program := ⟨⟨0, 11⟩, [], [.expressionStatement ⟨0, 11⟩
      (.call ⟨0, 11⟩ (.member ⟨0, 7⟩ (.identifier ⟨0, 1⟩ "f") "apply" false) [] [.object ⟨8, 10⟩ []] false)]⟩
    (builtin.run .default "f.apply({})" .untyped program).findingsNamed "custom/no-function-apply" =
      ((ofRules [NoButton.rule, NoFunctionApply.rule]).run
        (Config.none.withRule "no-function-apply" .warn) "f.apply({})" .untyped program).findingsNamed
          "custom/no-function-apply" :=
  (findingsNamed_run (by rfl) (by decide +kernel) _ _ _).1

end Registry
end ScriptLint
