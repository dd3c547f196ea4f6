import Mathlib.Algebra.Group.Nat.Defs
import Mathlib.Data.List.Forall2
import ScriptLint.Lint.Host
import ScriptLint.Proofs.PositionOrder

/-! What a host gets is what a file gives, in its own numbers. A source of less than 2^32 bytes has no line and no
column that 32 bits do not hold, since lines and columns together are bounded by the start of a finding, so that
nothing is lost on the way. Errors are passed on as their texts, and a configuration is read before the source. -/

namespace ScriptLint

theorem Registry.position_of_lintFile {registry : Registry} {config : Config} {filename source : String}
    {found : List FileFinding} (linted : registry.lintFile config filename source = .ok found) :
    ∀ each ∈ found, each.position = Position.ofOffset source each.finding.span.start := by
  intro each member
  unfold lintFile at linted
  cases read : Program.ofText (.ofPath filename) source with
  | error issues => simp [read] at linted
  | ok program =>
    simp only [read, Except.ok.injEq] at linted
    rw [← linted] at member
    obtain ⟨finding, -, rfl⟩ := List.mem_map.mp member
    rfl

namespace Host

def requested (source : String) (options : Option Options) : Except LintError (List FileFinding) :=
  let options := options.getD {}
  match options.config with
  | some text => lintFileWith text (options.filename.getD "input.tsx") source
  | none => lintFile .default (options.filename.getD "input.tsx") source

structure Agrees (found : FileFinding) (item : HostFinding) : Prop where
  rule : item.rule = found.finding.rule
  message : item.message = found.finding.message
  help : item.help = found.finding.help
  severity : item.severity = found.finding.severity.text
  line : item.line.toNat = found.position.line
  column : item.column.toNat = found.position.column
  start : item.start.toNat = found.finding.span.start
  stop : item.stop.toNat = found.finding.span.stop

theorem toNat_toUInt32 {number : Nat} (small : number < 2 ^ 32) : number.toUInt32.toNat = number := by
  rw [Nat.toUInt32, UInt32.toNat_ofNat', Nat.mod_eq_of_lt small]

theorem lint_eq (source : String) (options : Option Options) :
    lint source options = match requested source options with
      | .ok found => .ok (found.map ofFileFinding)
      | .error error => .error error.message := rfl

theorem position_of_requested {source : String} {options : Option Options} {found : List FileFinding}
    (linted : requested source options = .ok found) :
    ∀ each ∈ found, each.position = Position.ofOffset source each.finding.span.start := by
  unfold requested at linted
  dsimp only at linted
  split at linted
  · rename_i text _
    unfold lintFileWith Registry.lintFileWith at linted
    cases read : Config.ofText .builtin text with
    | error error => simp [read] at linted
    | ok config =>
      rw [read] at linted
      exact Registry.position_of_lintFile linted
  · exact Registry.position_of_lintFile linted

/-- A finding that ends in a source of less than 2^32 bytes loses nothing: its start bounds its line and column. -/
theorem agrees_ofFileFinding {source : String} (small : Text.byteSize source.toList ≤ 2 ^ 32 - 1)
    {found : FileFinding} (placed : found.position = Position.ofOffset source found.finding.span.start)
    (nonempty : found.finding.span.start < found.finding.span.stop)
    (fits : found.finding.span.stop ≤ Text.byteSize source.toList) : Agrees found (ofFileFinding found) := by
  have bound := Position.line_add_column_le source found.finding.span.start
  have firstLine : 0 < (Position.ofOffset source found.finding.span.start).line := Nat.succ_pos _
  have firstColumn : 0 < (Position.ofOffset source found.finding.span.start).column := Nat.succ_pos _
  rw [← placed] at bound firstLine firstColumn
  have line : found.position.line < 2 ^ 32 := by omega
  have column : found.position.column < 2 ^ 32 := by omega
  have start : found.finding.span.start < 2 ^ 32 := by omega
  have stop : found.finding.span.stop < 2 ^ 32 := by omega
  exact ⟨rfl, rfl, rfl, rfl, toNat_toUInt32 line, toNat_toUInt32 column, toNat_toUInt32 start, toNat_toUInt32 stop⟩

/-- A call of the host succeeds exactly if the file can be linted, and then gives the same findings in the same
order, with every number kept. Otherwise it gives the text of the error, which is that of the configuration if
it has one, whatever the source is. -/
theorem lint_agrees {source : String} (small : Text.byteSize source.toList ≤ 2 ^ 32 - 1) {options : Option Options}
    (spans : ∀ found, requested source options = .ok found → ∀ each ∈ found,
      each.finding.span.start < each.finding.span.stop ∧ each.finding.span.stop ≤ Text.byteSize source.toList) :
    ((∃ items, lint source options = .ok items) ↔ ∃ found, requested source options = .ok found) ∧
    (∀ found, requested source options = .ok found →
      ∃ items, lint source options = .ok items ∧ List.Forall₂ Agrees found items) ∧
    (∀ error, requested source options = .error error → lint source options = .error error.message) ∧
    (∀ text error, (options.getD {}).config = some text → Config.ofText .builtin text = .error error →
      lint source options = .error (LintError.config error).message) ∧
    ∀ offset, (Position.ofOffset source offset).line + (Position.ofOffset source offset).column ≤ offset + 2 := by
  refine ⟨?_, ?_, ?_, ?_, Position.line_add_column_le source⟩
  · rw [lint_eq]
    cases requested source options <;> simp
  · intro found linted
    refine ⟨found.map ofFileFinding, by rw [lint_eq, linted], ?_⟩
    rw [List.forall₂_map_right_iff, List.forall₂_same]
    intro each member
    obtain ⟨nonempty, fits⟩ := spans found linted each member
    exact agrees_ofFileFinding small (position_of_requested linted each member) nonempty fits
  · intro error failed
    rw [lint_eq, failed]
  · intro text error given wrong
    have failed : requested source options = .error (.config error) := by
      simp only [requested, given, lintFileWith, Registry.lintFileWith, wrong]
    rw [lint_eq, failed]

theorem lint_agrees_second_line :
    ∃ found items, requested "b;\nc.apply(null)" none = .ok found ∧ lint "b;\nc.apply(null)" none = .ok items ∧
      found.map FileFinding.position = [⟨2, 9⟩, ⟨2, 1⟩] ∧ List.Forall₂ Agrees found items := by
  have checked : (requested "b;\nc.apply(null)" none).toOption.any (fun found => decide
      (found.map FileFinding.position = [⟨2, 9⟩, ⟨2, 1⟩] ∧ ∀ each ∈ found,
        each.finding.span.start < each.finding.span.stop ∧
          each.finding.span.stop ≤ Text.byteSize "b;\nc.apply(null)".toList)) = true := by decide +kernel
  obtain ⟨found, linted, fits⟩ := exists_ok_of_any checked
  obtain ⟨positions, inside⟩ := of_decide_eq_true fits
  have small : Text.byteSize "b;\nc.apply(null)".toList ≤ 2 ^ 32 - 1 := by decide +kernel
  have spans (other : List FileFinding) (same : requested "b;\nc.apply(null)" none = .ok other) :
      ∀ each ∈ other, each.finding.span.start < each.finding.span.stop ∧
        each.finding.span.stop ≤ Text.byteSize "b;\nc.apply(null)".toList := by
    cases Except.ok.inj (linted.symm.trans same)
    exact inside
  obtain ⟨-, agree, -⟩ := lint_agrees small spans
  obtain ⟨items, passed, all⟩ := agree found linted
  exact ⟨found, items, linted, passed, positions, all⟩

end Host
end ScriptLint
