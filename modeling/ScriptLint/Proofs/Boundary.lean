import Mathlib.Order.Bounds.Basic
import ScriptLint.Proofs.PositionOrder

/-! The boundaries between the characters of a source text, as byte offsets. They are the sizes of its runs of
leading characters, and a run is known by its size. Going back byte by byte from any offset ends at the last
boundary before it, at the latest at the start of the text. -/

namespace ScriptLint.Text

def IsBoundary (source : String) (offset : Nat) : Prop := String.Pos.Raw.IsValid source ⟨offset⟩

instance (source : String) (offset : Nat) : Decidable (IsBoundary source offset) :=
  decidable_of_iff _ String.Pos.Raw.isValid_eq_true_iff

def boundaryBack? (source : String) : Nat → Option Nat
  | 0 => if String.Pos.Raw.isValid source ⟨0⟩ then some 0 else none
  | offset + 1 =>
    if String.Pos.Raw.isValid source ⟨offset + 1⟩ then some (offset + 1) else boundaryBack? source offset

theorem utf8ByteSize_ofList (text : List Char) : (String.ofList text).utf8ByteSize = byteSize text := by
  induction text with
  | nil => rfl
  | cons c rest ih =>
    rw [String.ofList_cons, String.utf8ByteSize_append, String.utf8ByteSize_singleton, ih, byteSize]

theorem byteSize_toList (source : String) : byteSize source.toList = source.utf8ByteSize := by
  rw [← utf8ByteSize_ofList, String.ofList_toList]

theorem isBoundary_iff (source : String) (offset : Nat) :
    IsBoundary source offset ↔ ∃ before, before <+: source.toList ∧ byteSize before = offset := by
  rw [IsBoundary, String.Pos.Raw.isValid_iff_exists_append]
  constructor
  · rintro ⟨before, rest, rfl, same⟩
    refine ⟨before.toList, ⟨rest.toList, String.toList_append.symm⟩, ?_⟩
    rw [byteSize_toList]
    exact (congrArg String.Pos.Raw.byteIdx same).symm
  · rintro ⟨before, ⟨rest, whole⟩, rfl⟩
    refine ⟨String.ofList before, String.ofList rest, ?_, ?_⟩
    · rw [← String.ofList_append, whole, String.ofList_toList]
    · exact congrArg String.Pos.Raw.mk (utf8ByteSize_ofList before).symm

theorem byteSize_le_of_prefix {first last : List Char} (begins : first <+: last) :
    byteSize first ≤ byteSize last := by
  obtain ⟨more, rfl⟩ := begins
  rw [byteSize_append]
  exact Nat.le_add_right _ _

theorem upTo_byteSize {before text : List Char} (begins : before <+: text) :
    upTo (byteSize before) text = before := by
  obtain ⟨rest, rfl⟩ := begins
  induction before with
  | nil =>
    cases rest with
    | nil => rfl
    | cons c rest =>
      have wide := c.utf8Size_pos
      simp only [byteSize, List.nil_append, upTo]
      rw [if_neg (by omega)]
  | cons c before ih =>
    rw [List.cons_append, upTo, byteSize, if_pos (Nat.le_add_right _ _), Nat.add_sub_cancel_left, ih]

/-- Runs of leading characters of one size are equal. -/
theorem eq_of_byteSize_eq {one other text : List Char} (begins : one <+: text) (too : other <+: text)
    (same : byteSize one = byteSize other) : one = other := by
  rw [← upTo_byteSize begins, same, upTo_byteSize too]

theorem isBoundary_byteSize_upTo (source : String) (offset : Nat) :
    IsBoundary source (byteSize (upTo offset source.toList)) :=
  (isBoundary_iff source _).mpr ⟨_, upTo_isPrefix offset source.toList, rfl⟩

theorem isBoundary_utf8ByteSize (source : String) : IsBoundary source source.utf8ByteSize :=
  (isBoundary_iff source _).mpr ⟨_, List.prefix_rfl, byteSize_toList source⟩

theorem IsBoundary.le_utf8ByteSize {source : String} {offset : Nat} (boundary : IsBoundary source offset) :
    offset ≤ source.utf8ByteSize := by
  obtain ⟨before, begins, rfl⟩ := (isBoundary_iff source offset).mp boundary
  rw [← byteSize_toList]
  exact byteSize_le_of_prefix begins

theorem IsBoundary.byteSize_upTo {source : String} {offset : Nat} (boundary : IsBoundary source offset) :
    byteSize (upTo offset source.toList) = offset := by
  obtain ⟨before, begins, rfl⟩ := (isBoundary_iff source offset).mp boundary
  rw [upTo_byteSize begins]

/-- The characters that fit before an offset end at the last boundary at or before it. -/
theorem isGreatest_byteSize_upTo (source : String) (offset : Nat) :
    IsGreatest {boundary | IsBoundary source boundary ∧ boundary ≤ offset} (byteSize (upTo offset source.toList)) := by
  constructor
  · exact ⟨isBoundary_byteSize_upTo source offset, byteSize_upTo_le offset _⟩
  · rintro boundary ⟨between, early⟩
    have begins := upTo_prefix_upTo early source.toList
    rw [← between.byteSize_upTo]
    exact byteSize_le_of_prefix begins

theorem upTo_min (source : String) (offset : Nat) :
    upTo (min offset source.utf8ByteSize) source.toList = upTo offset source.toList := by
  have between := isBoundary_byteSize_upTo source offset
  have inside := Nat.le_min_of_le_of_le (byteSize_upTo_le offset source.toList) between.le_utf8ByteSize
  have later := (isGreatest_byteSize_upTo source (min offset source.utf8ByteSize)).2 ⟨between, inside⟩
  have earlier := byteSize_le_of_prefix (upTo_prefix_upTo (Nat.min_le_left offset source.utf8ByteSize) source.toList)
  exact eq_of_byteSize_eq (upTo_isPrefix _ _) (upTo_isPrefix _ _) (Nat.le_antisymm earlier later)

/-- Going back never runs out of bytes, since the first byte is a boundary. -/
theorem boundaryBack?_isGreatest (source : String) (offset : Nat) :
    ∃ stop, boundaryBack? source offset = some stop ∧
      IsGreatest {boundary | IsBoundary source boundary ∧ boundary ≤ offset} stop := by
  induction offset with
  | zero =>
    have start : IsBoundary source 0 := (isBoundary_iff source 0).mpr ⟨[], List.nil_prefix, rfl⟩
    refine ⟨0, ?_, ⟨start, Nat.le_refl 0⟩, fun boundary early => early.2⟩
    rw [boundaryBack?, if_pos (String.Pos.Raw.isValid_eq_true_iff.mpr start)]
  | succ offset ih =>
    by_cases here : IsBoundary source (offset + 1)
    · refine ⟨offset + 1, ?_, ⟨here, Nat.le_refl _⟩, fun boundary early => early.2⟩
      rw [boundaryBack?, if_pos (String.Pos.Raw.isValid_eq_true_iff.mpr here)]
    · obtain ⟨stop, found, ⟨between, early⟩, last⟩ := ih
      refine ⟨stop, ?_, ⟨between, Nat.le_succ_of_le early⟩, ?_⟩
      · rw [boundaryBack?, if_neg fun valid => here (String.Pos.Raw.isValid_eq_true_iff.mp valid), found]
      · rintro boundary ⟨other, late⟩
        have different : boundary ≠ offset + 1 := by
          rintro rfl
          exact here other
        exact last ⟨other, by omega⟩

theorem boundaryBack?_eq (source : String) (offset : Nat) :
    boundaryBack? source offset = some (byteSize (upTo offset source.toList)) := by
  obtain ⟨stop, found, greatest⟩ := boundaryBack?_isGreatest source offset
  rw [found, greatest.unique (isGreatest_byteSize_upTo source offset)]

theorem after?_cons {offset : Nat} (more : 0 < offset) (c : Char) (rest : List Char) :
    after? offset (c :: rest) = if c.utf8Size ≤ offset then after? (offset - c.utf8Size) rest else none := by
  obtain ⟨offset, rfl⟩ := Nat.exists_eq_succ_of_ne_zero more.ne'
  rfl

theorem first?_cons {offset : Nat} (more : 0 < offset) (c : Char) (rest : List Char) :
    first? offset (c :: rest) =
      if c.utf8Size ≤ offset then (first? (offset - c.utf8Size) rest).map (c :: ·) else none := by
  obtain ⟨offset, rfl⟩ := Nat.exists_eq_succ_of_ne_zero more.ne'
  rfl

theorem after?_eq_some_iff (offset : Nat) (text rest : List Char) :
    after? offset text = some rest ↔ ∃ before, text = before ++ rest ∧ byteSize before = offset := by
  constructor
  · intro found
    induction text generalizing offset with
    | nil =>
      cases offset with
      | zero => exact ⟨[], (Option.some.inj found), rfl⟩
      | succ offset => cases found
    | cons c text ih =>
      rcases Nat.eq_zero_or_pos offset with rfl | more
      · exact ⟨[], Option.some.inj found, rfl⟩
      · rw [after?_cons more] at found
        split at found
        · obtain ⟨before, rfl, size⟩ := ih _ found
          refine ⟨c :: before, rfl, ?_⟩
          rw [byteSize, size]
          omega
        · cases found
  · rintro ⟨before, rfl, rfl⟩
    induction before with
    | nil => cases rest <;> rfl
    | cons c before ih =>
      have more : 0 < byteSize (c :: before) := Nat.add_pos_left c.utf8Size_pos _
      rw [List.cons_append, after?_cons more, byteSize, if_pos (Nat.le_add_right _ _), Nat.add_sub_cancel_left, ih]

theorem first?_eq_some_iff (offset : Nat) (text first : List Char) :
    first? offset text = some first ↔ first <+: text ∧ byteSize first = offset := by
  constructor
  · intro found
    induction text generalizing offset first with
    | nil =>
      cases offset with
      | zero =>
        cases found
        exact ⟨List.nil_prefix, rfl⟩
      | succ offset => cases found
    | cons c text ih =>
      rcases Nat.eq_zero_or_pos offset with rfl | more
      · cases found
        exact ⟨List.nil_prefix, rfl⟩
      · rw [first?_cons more] at found
        split at found
        · obtain ⟨before, inner, rfl⟩ := Option.map_eq_some_iff.mp found
          obtain ⟨begins, size⟩ := ih _ before inner
          refine ⟨(List.prefix_cons_inj c).mpr begins, ?_⟩
          rw [byteSize, size]
          omega
        · cases found
  · rintro ⟨⟨rest, rfl⟩, rfl⟩
    induction first with
    | nil => cases rest <;> rfl
    | cons c first ih =>
      have more : 0 < byteSize (c :: first) := Nat.add_pos_left c.utf8Size_pos _
      rw [List.cons_append, first?_cons more, byteSize, if_pos (Nat.le_add_right _ _), Nat.add_sub_cancel_left, ih,
        Option.map_some]

/-- What a span cuts out of a text are the characters between two runs of leading characters. -/
theorem slice?_eq_some_iff (span : Span) (text middle : List Char) :
    slice? span text = some middle ↔ ∃ before rest, text = before ++ middle ++ rest ∧
      byteSize before = span.start ∧ byteSize (before ++ middle) = span.stop := by
  rw [slice?]
  split
  · rename_i sorted
    simp only [Option.bind_eq_some_iff, after?_eq_some_iff, first?_eq_some_iff, byteSize_append]
    constructor
    · rintro ⟨_, ⟨before, rfl, start⟩, ⟨rest, rfl⟩, size⟩
      exact ⟨before, rest, by rw [List.append_assoc], start, by omega⟩
    · rintro ⟨before, rest, rfl, start, stop⟩
      exact ⟨middle ++ rest, ⟨before, by rw [List.append_assoc], start⟩, List.prefix_append _ _, by omega⟩
  · rename_i reversed
    simp only [reduceCtorEq, byteSize_append, false_iff, not_exists, not_and]
    omega

end ScriptLint.Text

namespace ScriptLint.Position

theorem ofOffset_byteSize {source : String} {before : List Char} (begins : before <+: source.toList) :
    ofOffset source (Text.byteSize before) = following before := by
  rw [ofOffset, Text.upTo_byteSize begins]

end ScriptLint.Position
