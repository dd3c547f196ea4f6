import ScriptLint.Text.Position

/-! Positions follow offsets: of two offsets in a text the earlier one never has the later line, nor the later
column of the same line. The text before the earlier offset begins the text before the later one, and each
character that is added either starts a new line or moves the column on. As no character does both, lines and
columns together count no more than the bytes before them. -/

namespace ScriptLint

theorem Text.upTo_prefix_upTo {first last : Nat} (sorted : first ≤ last) (text : List Char) :
    upTo first text <+: upTo last text := by
  induction text generalizing first last with
  | nil => exact List.prefix_rfl
  | cons c rest ih =>
    rw [upTo, upTo]
    split
    · have fits : c.utf8Size ≤ last := by omega
      rw [if_pos fits]
      exact (List.prefix_cons_inj c).mpr (ih (by omega))
    · exact List.nil_prefix

namespace Position

def AtOrBefore (first last : Position) : Prop :=
  first.line < last.line ∨ first.line = last.line ∧ first.column ≤ last.column

instance (first last : Position) : Decidable (first.AtOrBefore last) :=
  inferInstanceAs (Decidable (_ ∨ _))

theorem line_following_append (text more : List Char) :
    (following (text ++ more)).line = (following text).line + more.count '\n' := by
  simp only [following, List.count_append]
  omega

theorem column_following_append {more : List Char} (sameLine : '\n' ∉ more) (text : List Char) :
    (following (text ++ more)).column = (following text).column + more.length := by
  have inLine : ∀ c ∈ more.reverse, (c != '\n') = true := by
    intro c member
    simp only [bne_iff_ne, ne_eq]
    rintro rfl
    exact sameLine (List.mem_reverse.mp member)
  simp only [following, List.reverse_append, List.takeWhile_append_of_pos inLine, List.length_append,
    List.length_reverse]
  omega

theorem following_append_of_not_mem {more : List Char} (sameLine : '\n' ∉ more) (text : List Char) :
    following (text ++ more) = ⟨(following text).line, (following text).column + more.length⟩ := by
  have line := line_following_append text more
  have column := column_following_append sameLine text
  rw [List.count_eq_zero_of_not_mem sameLine, Nat.add_zero] at line
  rw [← line, ← column]

theorem column_following_feed (text : List Char) : (following (text ++ ['\n'])).column = 1 := by
  simp [following]

theorem following_atOrBefore_append (text more : List Char) :
    (following text).AtOrBefore (following (text ++ more)) := by
  by_cases sameLine : '\n' ∈ more
  · have fed : 0 < more.count '\n' := List.count_pos_iff.mpr sameLine
    refine .inl ?_
    rw [line_following_append]
    omega
  · refine .inr ⟨?_, ?_⟩
    · rw [line_following_append, List.count_eq_zero_of_not_mem sameLine, Nat.add_zero]
    · rw [column_following_append sameLine]
      omega

/-- Positions never go back while offsets do not. -/
theorem ofOffset_mono (source : String) {first last : Nat} (sorted : first ≤ last) :
    (ofOffset source first).AtOrBefore (ofOffset source last) := by
  obtain ⟨more, whole⟩ := Text.upTo_prefix_upTo sorted source.toList
  unfold ofOffset
  rw [← whole]
  exact following_atOrBefore_append _ more

theorem count_add_length_takeWhile_le (text : List Char) :
    text.count '\n' + (text.takeWhile (· != '\n')).length ≤ text.length := by
  induction text with
  | nil => exact Nat.le_refl _
  | cons c rest ih =>
    by_cases feed : c = '\n'
    · have inRest := List.count_le_length (a := '\n') (l := rest)
      simp [feed, inRest]
    · simp [feed]
      omega

theorem line_add_column_following_le (text : List Char) :
    (following text).line + (following text).column ≤ text.length + 2 := by
  have counted := count_add_length_takeWhile_le text.reverse
  rw [List.count_reverse, List.length_reverse] at counted
  simp only [following]
  omega

/-- Lines and columns together count no more than the bytes before an offset. -/
theorem line_add_column_le (source : String) (offset : Nat) :
    (ofOffset source offset).line + (ofOffset source offset).column ≤ offset + 2 := by
  have counted := line_add_column_following_le (Text.upTo offset source.toList)
  have characters := Text.length_le_byteSize (Text.upTo offset source.toList)
  have bytes := Text.byteSize_upTo_le offset source.toList
  unfold ofOffset
  omega

end Position
end ScriptLint
