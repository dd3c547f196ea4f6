import ScriptLint.Lint.Tester
import ScriptLint.Proofs.Relabeling

/-! A tester and the linter agree. A tester runs its rule alone and at one level, but what a rule says at a site
depends neither on the other rules nor on the level at which it is on. So a sample passes exactly if the linter
reports the expected messages of the rule for it, under any configuration that has the rule on. -/

namespace ScriptLint
open Rule (bareName)

theorem Rule.messages_findingsAt {one other : Config} {rule : Rule} (oneOn : one.isEnabled rule.name = true)
    (otherOn : other.isEnabled rule.name = true) (dialect : Dialect) (site : Site) :
    (rule.findingsAt one dialect site).map Finding.message =
      (rule.findingsAt other dialect site).map Finding.message := by
  rw [findingsAt_relabeled (oneOn.trans otherOn.symm), List.map_map]
  exact List.map_congr_left fun finding _ => (finding.saysSame_relabeled other).message

namespace Registry

/-- The messages of a rule are the same under all configurations that have it on. -/
theorem messages_findingsNamed (registry : Registry) {one other : Config} {name : String}
    (oneOn : one.isEnabled name = true) (otherOn : other.isEnabled name = true) (source : String)
    (dialect : Dialect) (program : Program) :
    ((registry.run one source dialect program).findingsNamed name).map Finding.message =
      ((registry.run other source dialect program).findingsNamed name).map Finding.message := by
  rw [findingsNamed_eq, findingsNamed_eq]
  simp only [List.map_flatMap]
  apply List.flatMap_congr
  intro site _
  apply List.flatMap_congr
  intro rule member
  have named := name_of_mem_rulesNamed member
  apply Rule.messages_findingsAt
  · rwa [Config.isEnabled, one.level_congr named]
  · rwa [Config.isEnabled, other.level_congr named]

/-- Where only one name is set, all findings are of that name. -/
theorem findingsNamed_of_only (registry : Registry) (name : String) (level : Level) (source : String)
    (dialect : Dialect) (program : Program) :
    (registry.run (Config.none.withRule name level) source dialect program).findingsNamed name =
      (registry.run (Config.none.withRule name level) source dialect program).findings := by
  apply List.filter_eq_self.mpr
  intro finding member
  rw [run_findings] at member
  obtain ⟨site, -, inside⟩ := List.mem_flatMap.mp member
  obtain ⟨rule, -, reported⟩ := List.mem_flatMap.mp inside
  by_cases named : bareName rule.name = bareName name
  · rw [Rule.name_of_findingsAt reported]
    simpa using named
  · have off : (Config.none.withRule name level).level rule.name = .off := by
      rw [Config.level_withRule, if_neg (Ne.symm named), Config.level_none]
    rw [Rule.findingsAt_of_off off] at reported
    contradiction

end Registry

def messagesNamed (found : List FileFinding) (name : String) : List String :=
  (found.filter fun each => bareName each.finding.rule = bareName name).map fun each => each.finding.message

theorem messagesNamed_inFile (findings : List Finding) (filename source name : String) :
    messagesNamed (findings.map (Finding.inFile filename source)) name =
      (Report.findingsNamed ⟨findings⟩ name).map Finding.message := by
  rw [messagesNamed, List.filter_map, List.map_map]
  rfl

namespace Tester

inductive Addition where
  | valid (code : String)
  | validIn (filename code : String)
  | invalid (code : String) (expected : List String)
  | invalidIn (filename code : String) (expected : List String)

def Addition.sample : Addition → Sample
  | valid code => ⟨defaultFilename, code, []⟩
  | validIn filename code => ⟨filename, code, []⟩
  | invalid code expected => ⟨defaultFilename, code, expected⟩
  | invalidIn filename code expected => ⟨filename, code, expected⟩

def Addition.Complete : Addition → Prop
  | valid _ | validIn _ _ => True
  | invalid _ expected | invalidIn _ _ expected => expected ≠ []

def add (tester : Tester) : Addition → Except Misuse Tester
  | .valid code => .ok (tester.valid code)
  | .validIn filename code => .ok (tester.valid code filename)
  | .invalid code expected => tester.invalid code expected
  | .invalidIn filename code expected => tester.invalid code expected filename

def filled (registry : Registry) (name : String) (additions : List Addition) : Except Misuse Tester := do
  additions.foldlM add (← ofRule registry name)

def Failure.sample : Failure → Sample
  | notParsed sample _ | other sample _ => sample

theorem add_eq_ok_iff (tester : Tester) (addition : Addition) (after : Tester) :
    tester.add addition = .ok after ↔
      addition.Complete ∧ after = { tester with samples := tester.samples ++ [addition.sample] } := by
  cases addition with
  | valid | validIn => simp [add, Tester.valid, Addition.Complete, Addition.sample, eq_comm]
  | invalid _ expected | invalidIn _ _ expected =>
    cases expected <;> simp [add, Tester.invalid, Addition.Complete, Addition.sample, eq_comm]

theorem addAll_eq_ok_iff (tester : Tester) (additions : List Addition) (after : Tester) :
    additions.foldlM add tester = .ok after ↔ (∀ addition ∈ additions, addition.Complete) ∧
      after = { tester with samples := tester.samples ++ additions.map Addition.sample } := by
  induction additions generalizing tester with
  | nil => simp [pure, Except.pure, eq_comm]
  | cons addition rest ih =>
    rw [List.foldlM_cons]
    cases added : tester.add addition with
    | error misuse =>
      have incomplete : ¬ addition.Complete := fun complete => by
        have success := (add_eq_ok_iff tester addition _).mpr ⟨complete, rfl⟩
        rw [added] at success
        contradiction
      simp [bind, Except.bind, incomplete]
    | ok next =>
      obtain ⟨complete, rfl⟩ := (add_eq_ok_iff tester addition next).mp added
      change rest.foldlM add _ = .ok after ↔ _
      simp [ih, complete]

/-- A tester can be filled if its rule is registered and all code that is expected to be wrong comes with a
message. Then it has the name under which the rule is registered, and the samples in the order of the calls. -/
theorem filled_eq_ok_iff (registry : Registry) (name : String) (additions : List Addition) (tester : Tester) :
    filled registry name additions = .ok tester ↔
      ∃ rule, registry.get? name = some rule ∧ (∀ addition ∈ additions, addition.Complete) ∧
        tester = ⟨rule.name, registry, additions.map Addition.sample⟩ := by
  unfold filled ofRule
  cases registry.get? name with
  | none => simp [bind, Except.bind]
  | some rule =>
    change additions.foldlM add _ = .ok tester ↔ _
    simp [addAll_eq_ok_iff]

theorem sample_of_check {tester : Tester} {sample : Sample} {failure : Failure}
    (failed : tester.check sample = some failure) : failure.sample = sample := by
  unfold check at failed
  dsimp only at failed
  split at failed
  · cases Option.some.inj failed
    rfl
  · split at failed
    · contradiction
    · cases Option.some.inj failed
      rfl

theorem samples_of_failures (tester : Tester) :
    tester.failures.map Failure.sample = tester.samples.filter fun sample => (tester.check sample).isSome := by
  unfold failures
  induction tester.samples with
  | nil => rfl
  | cons sample rest ih =>
    cases checked : tester.check sample with
    | none => simp [checked, ih]
    | some failure => simp [checked, ih, sample_of_check checked]

theorem exists_run_error_iff (tester : Tester) : (∃ text, tester.run = .error text) ↔ tester.failures ≠ [] := by
  unfold run
  split
  · rename_i none
    simp [none]
  · rename_i some
    simpa using some

/-- A sample passes exactly if the linter gives the expected messages, under any configuration that has the rule
on. -/
theorem check_eq_none_iff (tester : Tester) {config : Config} (on : config.isEnabled tester.rule = true)
    (sample : Sample) :
    tester.check sample = none ↔
      ∃ found, tester.registry.lintFile config sample.filename sample.code = .ok found ∧
        messagesNamed found tester.rule = sample.expected := by
  unfold check Registry.lintFile
  dsimp only
  cases Program.ofText (.ofPath sample.filename) sample.code with
  | error issues => simp
  | ok program =>
    have alone : tester.config.isEnabled tester.rule = true := by
      rw [Config.isEnabled, Tester.config, Config.level_withRule, if_pos rfl]
      rfl
    have same := tester.registry.messages_findingsNamed alone on sample.code (.ofPath sample.filename) program
    rw [Tester.config, Registry.findingsNamed_of_only] at same
    simp [Tester.config, same, messagesNamed_inFile]

/-- A tester that could be filled fails once for every sample that does not pass, in the order of the samples, and
complains exactly if one fails. A sample passes exactly if the linter gives the expected messages for the rule,
whatever a configuration that has the rule on says about others. -/
theorem verdict_eq_linter {registry : Registry} {name : String} {additions : List Addition} {tester : Tester}
    (built : filled registry name additions = .ok tester) :
    (∃ rule, registry.get? name = some rule ∧ tester.rule = rule.name) ∧
    tester.failures.map Failure.sample =
      (additions.map Addition.sample).filter (fun sample => (tester.check sample).isSome) ∧
    ((∃ text, tester.run = .error text) ↔ tester.failures ≠ []) ∧
    ∀ config : Config, config.isEnabled tester.rule = true → ∀ sample : Sample,
      tester.check sample = none ↔
        ∃ found, registry.lintFile config sample.filename sample.code = .ok found ∧
          messagesNamed found tester.rule = sample.expected := by
  obtain ⟨rule, known, -, rfl⟩ := (filled_eq_ok_iff registry name additions tester).mp built
  refine ⟨⟨rule, known, rfl⟩, samples_of_failures _, exists_run_error_iff _, ?_⟩
  intro config on sample
  exact check_eq_none_iff _ on sample

theorem verdict_eq_linter_one_failure :
    ∃ tester, filled .builtin "custom/no-literal"
        [.valid "f.apply(x)", .invalid "f.apply(1)" [NoLiteral.rule.message], .validIn "a.ts" "f.apply(1)"] =
          .ok tester ∧
      tester.failures.map Failure.sample = [⟨"a.ts", "f.apply(1)", []⟩] ∧ (∃ text, tester.run = .error text) ∧
      ∃ found, Registry.builtin.lintFile .default "input.jsx" "f.apply(1)" = .ok found ∧
        messagesNamed found tester.rule = [NoLiteral.rule.message] := by
  have checked : (filled .builtin "custom/no-literal"
      [.valid "f.apply(x)", .invalid "f.apply(1)" [NoLiteral.rule.message], .validIn "a.ts" "f.apply(1)"]).toOption.any
        (fun tester => decide (tester.failures.map Failure.sample = [⟨"a.ts", "f.apply(1)", []⟩] ∧
          Config.default.isEnabled tester.rule = true ∧
          tester.check ⟨"input.jsx", "f.apply(1)", [NoLiteral.rule.message]⟩ = none)) = true := by decide +kernel
  obtain ⟨tester, built, fits⟩ := exists_ok_of_any checked
  obtain ⟨failing, on, passes⟩ := of_decide_eq_true fits
  obtain ⟨-, -, complains, verdict⟩ := verdict_eq_linter built
  have failed : tester.failures ≠ [] := fun none => by simp [none] at failing
  have accepted := (verdict .default on ⟨"input.jsx", "f.apply(1)", [NoLiteral.rule.message]⟩).mp passes
  exact ⟨tester, built, failing, complains.mpr failed, accepted⟩

end Tester
end ScriptLint
