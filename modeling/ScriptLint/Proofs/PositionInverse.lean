import Mathlib.Algebra.GroupWithZero.Nat
import Mathlib.Data.List.GetD
import Mathlib.Data.List.Basic
import ScriptLint.Proofs.Boundary

/-! Positions and boundaries determine one another. The lines of a text are the stretches between its line feeds.
The text before a boundary is a number of whole lines, each with its line feed, and the start of another one, and
these are what a line and a column count, so that they can be counted back. -/

namespace ScriptLint

namespace Text

def lines (source : String) : List (List Char) := source.toList.splitOn '\n'

def withFeeds (lines : List (List Char)) : List Char := lines.flatMap (· ++ ['\n'])

theorem withFeeds_cons (line : List Char) (rest : List (List Char)) :
    withFeeds (line :: rest) = line ++ '\n' :: withFeeds rest := by
  rw [withFeeds, List.flatMap_cons, List.append_assoc]
  rfl

theorem withFeeds_append (first last : List (List Char)) :
    withFeeds (first ++ last) = withFeeds first ++ withFeeds last := List.flatMap_append

theorem withFeeds_splitOn (text : List Char) : withFeeds (text.splitOn '\n') = text ++ ['\n'] := by
  induction text with
  | nil => rfl
  | cons c rest ih =>
    obtain ⟨line, more, split⟩ := List.exists_cons_of_ne_nil (List.splitOn_ne_nil '\n' rest)
    rw [split] at ih
    rw [List.splitOn_cons_eq_if_modifyHead, split]
    by_cases feed : c = '\n'
    · subst feed
      simpa [withFeeds] using ih
    · simpa [withFeeds, feed] using ih

theorem feed_not_mem_of_mem_splitOn {text line : List Char} (member : line ∈ text.splitOn '\n') :
    '\n' ∉ line := by
  induction text generalizing line with
  | nil =>
    have empty : line = [] := by simpa using member
    simp [empty]
  | cons c rest ih =>
    obtain ⟨first, more, split⟩ := List.exists_cons_of_ne_nil (List.splitOn_ne_nil '\n' rest)
    rw [split] at ih
    rw [List.splitOn_cons_eq_if_modifyHead, split] at member
    by_cases feed : c = '\n'
    · rw [if_pos (by simpa using feed)] at member
      rcases List.mem_cons.mp member with rfl | inRest
      · exact List.not_mem_nil
      · exact ih inRest
    · rw [if_neg (by simpa using feed), List.modifyHead_cons] at member
      rcases List.mem_cons.mp member with rfl | inRest
      · have inFirst := ih List.mem_cons_self
        simp [Ne.symm feed, inFirst]
      · exact ih (List.mem_cons_of_mem _ inRest)

theorem splitOn_withFeeds_append {whole : List (List Char)} (unbroken : ∀ line ∈ whole, '\n' ∉ line)
    (rest : List Char) : (withFeeds whole ++ rest).splitOn '\n' = whole ++ rest.splitOn '\n' := by
  induction whole with
  | nil => rfl
  | cons line whole ih =>
    obtain ⟨first, others⟩ := List.forall_mem_cons.mp unbroken
    have parts : (line ++ '\n' :: (withFeeds whole ++ rest)).splitOn '\n' =
        line.splitOn '\n' ++ (withFeeds whole ++ rest).splitOn '\n' :=
      List.splitOnP_append_cons _ _ (beq_self_eq_true '\n')
    rw [withFeeds_cons, List.append_assoc, List.cons_append, parts, List.splitOn_eq_singleton first, ih others]
    rfl

theorem exists_splitOn_append {first : List Char} (unbroken : '\n' ∉ first) (rest : List Char) :
    ∃ more others, (first ++ rest).splitOn '\n' = (first ++ more) :: others := by
  induction first with
  | nil => exact List.exists_cons_of_ne_nil (List.splitOn_ne_nil '\n' rest)
  | cons c first ih =>
    obtain ⟨different, inFirst⟩ := not_or.mp (mt List.mem_cons.mpr unbroken)
    obtain ⟨more, others, split⟩ := ih inFirst
    refine ⟨more, others, ?_⟩
    rw [List.cons_append, List.splitOn_cons_eq_if_modifyHead, split, if_neg (by simpa using Ne.symm different)]
    rfl

/-- Every text is a number of whole lines and the start of another one. -/
theorem exists_withFeeds_append (text : List Char) :
    ∃ whole last, (∀ line ∈ whole, '\n' ∉ line) ∧ '\n' ∉ last ∧ text = withFeeds whole ++ last := by
  have nonempty := List.splitOn_ne_nil '\n' text
  have parts := List.dropLast_concat_getLast nonempty
  refine ⟨(text.splitOn '\n').dropLast, (text.splitOn '\n').getLast nonempty, ?_, ?_, ?_⟩
  · exact fun line member => feed_not_mem_of_mem_splitOn (List.dropLast_subset _ member)
  · exact feed_not_mem_of_mem_splitOn (List.getLast_mem nonempty)
  · have joined := withFeeds_splitOn text
    rw [← parts, withFeeds_append, withFeeds_cons, ← List.append_assoc] at joined
    exact (List.append_cancel_right joined).symm

theorem count_withFeeds {whole : List (List Char)} (unbroken : ∀ line ∈ whole, '\n' ∉ line) :
    (withFeeds whole).count '\n' = whole.length := by
  induction whole with
  | nil => rfl
  | cons line whole ih =>
    obtain ⟨first, others⟩ := List.forall_mem_cons.mp unbroken
    rw [withFeeds_cons, List.count_append, List.count_cons_self, ih others, List.count_eq_zero_of_not_mem first,
      Nat.zero_add, List.length_cons]

theorem byteSize_withFeeds (whole : List (List Char)) :
    byteSize (withFeeds whole) = (whole.map fun line => byteSize line + 1).sum := by
  induction whole with
  | nil => rfl
  | cons line whole ih =>
    have feed : '\n'.utf8Size = 1 := rfl
    rw [withFeeds_cons, byteSize_append, byteSize, ih, List.map_cons, List.sum_cons, feed, Nat.add_assoc]

end Text

namespace Position
open Text (IsBoundary byteSize lines withFeeds boundaryBack?)

structure Within (lines : List (List Char)) (position : Position) : Prop where
  line_pos : 1 ≤ position.line
  line_le : position.line ≤ lines.length
  column_pos : 1 ≤ position.column
  column_le : position.column ≤ (lines.getD (position.line - 1) []).length + 1

def offsetIn (lines : List (List Char)) (position : Position) : Nat :=
  ((lines.take (position.line - 1)).map fun line => byteSize line + 1).sum +
    byteSize ((lines.getD (position.line - 1) []).take (position.column - 1))

def textBefore (lines : List (List Char)) (position : Position) : List Char :=
  withFeeds (lines.take (position.line - 1)) ++ (lines.getD (position.line - 1) []).take (position.column - 1)

theorem byteSize_textBefore (lines : List (List Char)) (position : Position) :
    byteSize (textBefore lines position) = offsetIn lines position := by
  rw [textBefore, Text.byteSize_append, Text.byteSize_withFeeds, offsetIn]

theorem following_withFeeds_append {whole : List (List Char)} {last : List Char}
    (unbroken : ∀ line ∈ whole, '\n' ∉ line) (inLine : '\n' ∉ last) :
    following (withFeeds whole ++ last) = ⟨whole.length + 1, last.length + 1⟩ := by
  have line : (following (withFeeds whole)).line = whole.length + 1 := by
    simp [following, Text.count_withFeeds unbroken]
  have column : (following (withFeeds whole)).column = 1 := by
    rcases List.eq_nil_or_concat' whole with rfl | ⟨above, line, rfl⟩
    · rfl
    · rw [Text.withFeeds_append, Text.withFeeds_cons, ← List.append_assoc]
      exact column_following_feed _
  rw [following_append_of_not_mem inLine, line, column, Nat.add_comm 1]

/-- The text before a boundary is found again from its position. -/
theorem textBefore_following {before text : List Char} (begins : before <+: text) :
    (following before).Within (text.splitOn '\n') ∧ textBefore (text.splitOn '\n') (following before) = before := by
  obtain ⟨rest, rfl⟩ := begins
  obtain ⟨whole, last, unbroken, inLine, rfl⟩ := Text.exists_withFeeds_append before
  obtain ⟨more, others, split⟩ := Text.exists_splitOn_append inLine rest
  rw [List.append_assoc, Text.splitOn_withFeeds_append unbroken, split, following_withFeeds_append unbroken inLine]
  have here : (whole ++ (last ++ more) :: others).getD whole.length [] = last ++ more := by simp
  refine ⟨⟨Nat.succ_pos _, ?_, Nat.succ_pos _, ?_⟩, ?_⟩
  · simp
  · simp
  · simp [textBefore]

/-- Every position within the lines of a text has a text before it, and follows it. -/
theorem following_textBefore {text : List Char} {position : Position}
    (within : position.Within (text.splitOn '\n')) :
    textBefore (text.splitOn '\n') position <+: text ∧
      following (textBefore (text.splitOn '\n') position) = position := by
  obtain ⟨line, column⟩ := position
  obtain ⟨linePos, lineLe, columnPos, columnLe⟩ := within
  simp only at linePos lineLe columnPos columnLe
  obtain ⟨above, rfl⟩ := Nat.exists_eq_add_of_le' linePos
  obtain ⟨left, rfl⟩ := Nat.exists_eq_add_of_le' columnPos
  have inside : above < (text.splitOn '\n').length := lineLe
  have here : (text.splitOn '\n').getD above [] = (text.splitOn '\n')[above] := List.getD_eq_getElem _ _ inside
  have unbroken := Text.feed_not_mem_of_mem_splitOn (List.getElem_mem inside)
  simp only [textBefore, Nat.add_sub_cancel, here] at columnLe ⊢
  constructor
  · have parts : text.splitOn '\n' = (text.splitOn '\n').take above ++
        ((text.splitOn '\n')[above] :: (text.splitOn '\n').drop (above + 1)) := by
      rw [← List.drop_eq_getElem_cons inside, List.take_append_drop]
    have opened : withFeeds ((text.splitOn '\n')[above] :: (text.splitOn '\n').drop (above + 1)) =
        (text.splitOn '\n')[above].take left ++ ((text.splitOn '\n')[above].drop left ++
          '\n' :: withFeeds ((text.splitOn '\n').drop (above + 1))) := by
      rw [← List.append_assoc, List.take_append_drop, Text.withFeeds_cons]
    have joined := Text.withFeeds_splitOn text
    rw [parts, Text.withFeeds_append, opened, ← List.append_assoc] at joined
    rcases List.prefix_concat_iff.mp ⟨_, joined⟩ with whole | begins
    · rw [whole] at joined
      simp at joined
    · exact begins
  · have aboveUnbroken (line : List Char) (member : line ∈ (text.splitOn '\n').take above) : '\n' ∉ line :=
      Text.feed_not_mem_of_mem_splitOn (List.mem_of_mem_take member)
    rw [following_withFeeds_append aboveUnbroken fun member => unbroken (List.mem_of_mem_take member),
      List.length_take_of_le inside.le, List.length_take_of_le (Nat.le_of_succ_le_succ columnLe)]

theorem within_ofOffset (source : String) (offset : Nat) : (ofOffset source offset).Within (lines source) :=
  (textBefore_following (Text.upTo_isPrefix offset source.toList)).1

/-- The last boundary at or before an offset is counted back from the position of the offset. -/
theorem offsetIn_ofOffset (source : String) (offset : Nat) :
    offsetIn (lines source) (ofOffset source offset) = byteSize (Text.upTo offset source.toList) := by
  have before := (textBefore_following (Text.upTo_isPrefix offset source.toList)).2
  rw [← byteSize_textBefore, ofOffset, lines, before]

theorem offsetIn_of_isBoundary {source : String} {boundary : Nat} (between : IsBoundary source boundary) :
    offsetIn (lines source) (ofOffset source boundary) = boundary := by
  rw [offsetIn_ofOffset, between.byteSize_upTo]

theorem ofOffset_injOn {source : String} {first last : Nat} (one : IsBoundary source first)
    (other : IsBoundary source last) (same : ofOffset source first = ofOffset source last) : first = last := by
  rw [← offsetIn_of_isBoundary one, same, offsetIn_of_isBoundary other]

def Before (first last : Position) : Prop :=
  first.line < last.line ∨ first.line = last.line ∧ first.column < last.column

theorem ofOffset_strictMono {source : String} {first last : Nat} (one : IsBoundary source first)
    (other : IsBoundary source last) (sorted : first < last) :
    (ofOffset source first).Before (ofOffset source last) := by
  rcases ofOffset_mono source sorted.le with line | ⟨line, column⟩
  · exact .inl line
  · refine .inr ⟨line, Nat.lt_of_le_of_ne column ?_⟩
    intro sameColumn
    have same : ofOffset source first = ofOffset source last := by
      cases placed : ofOffset source first
      cases placedLast : ofOffset source last
      simp_all
    exact sorted.ne (ofOffset_injOn one other same)

/-- Between a boundary and the next one, and behind the last one, nothing moves. -/
theorem ofOffset_eq_of_last {source : String} {boundary offset : Nat} (between : IsBoundary source boundary)
    (early : boundary ≤ offset) (last : ∀ other, IsBoundary source other → other ≤ offset → other ≤ boundary) :
    ofOffset source offset = ofOffset source boundary := by
  have greatest : IsGreatest {boundary | IsBoundary source boundary ∧ boundary ≤ offset} boundary :=
    ⟨⟨between, early⟩, fun other inside => last other inside.1 inside.2⟩
  have size := greatest.unique (Text.isGreatest_byteSize_upTo source offset)
  rw [ofOffset, size, ofOffset_byteSize (Text.upTo_isPrefix offset source.toList)]

theorem existsUnique_boundary {source : String} {position : Position} (within : position.Within (lines source)) :
    ∃! boundary, IsBoundary source boundary ∧ ofOffset source boundary = position := by
  obtain ⟨begins, follows⟩ := following_textBefore within
  have between : IsBoundary source (byteSize (textBefore (lines source) position)) :=
    (Text.isBoundary_iff source _).mpr ⟨_, begins, rfl⟩
  have here : ofOffset source (byteSize (textBefore (lines source) position)) = position := by
    rw [lines, ofOffset_byteSize begins, follows]
  refine ⟨_, ⟨between, here⟩, ?_⟩
  rintro other ⟨also, there⟩
  exact ofOffset_injOn also between (there.trans here.symm)

/-- The position of an offset by going back to a boundary and cutting the text there. -/
def locate? (source : String) (offset : Nat) : Option Position :=
  (boundaryBack? source (min offset source.utf8ByteSize)).bind fun stop =>
    (Text.first? stop source.toList).map following

theorem locate?_eq (source : String) (offset : Nat) : locate? source offset = some (ofOffset source offset) := by
  have cut := (Text.first?_eq_some_iff _ _ _).mpr ⟨Text.upTo_isPrefix offset source.toList, rfl⟩
  rw [locate?, Text.boundaryBack?_eq, Text.upTo_min, Option.bind_some, cut, Option.map_some, ofOffset]

/-- Positions are inverted. Going back from an offset always ends, at the last boundary, and the position that is
found counts the bytes before that boundary; it moves on from each boundary to the next and nowhere else, and every
position within the lines is that of exactly one boundary. -/
theorem ofOffset_invertible (source : String) :
    (∀ offset, ∃ stop,
      IsGreatest {boundary | IsBoundary source boundary ∧ boundary ≤ min offset source.utf8ByteSize} stop ∧
      boundaryBack? source (min offset source.utf8ByteSize) = some stop ∧
      locate? source offset = some (ofOffset source offset) ∧
      (ofOffset source offset).Within (lines source) ∧
      offsetIn (lines source) (ofOffset source offset) = stop) ∧
    (∀ first last, IsBoundary source first → IsBoundary source last → first < last →
      (ofOffset source first).Before (ofOffset source last)) ∧
    (∀ boundary offset, IsBoundary source boundary → boundary ≤ offset →
      (∀ other, IsBoundary source other → other ≤ offset → other ≤ boundary) →
      ofOffset source offset = ofOffset source boundary) ∧
    (∀ offset, source.utf8ByteSize ≤ offset →
      ofOffset source offset = ofOffset source source.utf8ByteSize) ∧
    ∀ position, position.Within (lines source) →
      ∃! boundary, IsBoundary source boundary ∧ ofOffset source boundary = position := by
  refine ⟨?_, fun _ _ => ofOffset_strictMono, fun _ _ => ofOffset_eq_of_last, ?_, fun _ => existsUnique_boundary⟩
  · intro offset
    refine ⟨_, Text.isGreatest_byteSize_upTo source _, Text.boundaryBack?_eq source _, locate?_eq source offset,
      within_ofOffset source offset, ?_⟩
    rw [offsetIn_ofOffset, Text.upTo_min]
  · intro offset past
    exact ofOffset_eq_of_last (Text.isBoundary_utf8ByteSize source) past fun _ other _ => other.le_utf8ByteSize

theorem ofOffset_invertible_second_line :
    ofOffset "\u00e9\nb" 1 = ⟨1, 1⟩ ∧ (ofOffset "\u00e9\nb" 2).Before (ofOffset "\u00e9\nb" 3) ∧
      ofOffset "\u00e9\nb" 9 = ofOffset "\u00e9\nb" 4 ∧
      ∃! boundary, IsBoundary "\u00e9\nb" boundary ∧ ofOffset "\u00e9\nb" boundary = ⟨2, 2⟩ := by
  obtain ⟨-, increasing, between, past, reached⟩ := ofOffset_invertible "\u00e9\nb"
  have inside (other : Nat) (boundary : IsBoundary "\u00e9\nb" other) (early : other ≤ 1) : other ≤ 0 := by
    have different : other ≠ 1 := by
      rintro rfl
      exact absurd boundary (by decide +kernel)
    omega
  refine ⟨between 0 1 (by decide +kernel) (by decide) inside, ?_, past 9 (by decide +kernel), ?_⟩
  · exact increasing 2 3 (by decide +kernel) (by decide +kernel) (by decide)
  · exact reached ⟨2, 2⟩ ⟨by decide, by decide +kernel, by decide, by decide +kernel⟩

end Position
end ScriptLint
