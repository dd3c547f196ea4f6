import ScriptLint.Lint.Context
import ScriptLint.Proofs.Boundary

/-! What a span cuts out of a source and how positions move over it. Between two boundaries stand the characters
that the longer run before them has and the shorter one has not, so that stretches that meet join up, and the
position at the end of a stretch is known from the one at its start and the characters in it. -/

namespace ScriptLint
open Text (IsBoundary byteSize upTo)

theorem Text.exists_last_feed {text : List Char} (fed : '\n' ∈ text) :
    ∃ above left, text = above ++ '\n' :: left ∧ '\n' ∉ left := by
  obtain ⟨left, above, parts, sameLine⟩ := List.eq_append_cons_of_mem (List.mem_reverse.mpr fed)
  refine ⟨above.reverse, left.reverse, ?_, mt List.mem_reverse.mp sameLine⟩
  rw [← List.reverse_reverse text, parts, List.reverse_append, List.reverse_cons, List.append_assoc]
  rfl

namespace Position

theorem following_append_feed {last : List Char} (sameLine : '\n' ∉ last) (text first : List Char) :
    following (text ++ (first ++ '\n' :: last)) =
      ⟨(following text).line + (first ++ '\n' :: last).count '\n', 1 + last.length⟩ := by
  have line := line_following_append text (first ++ '\n' :: last)
  have parts : text ++ (first ++ '\n' :: last) = (text ++ first ++ ['\n']) ++ last := by simp
  have column := column_following_append sameLine (text ++ first ++ ['\n'])
  rw [column_following_feed, ← parts] at column
  rw [← line, ← column]

end Position

namespace Context

/-- Two boundaries cut a source into what is before, between and behind them. -/
theorem exists_parts {source : String} {first last : Nat} (one : IsBoundary source first)
    (other : IsBoundary source last) (sorted : first ≤ last) :
    ∃ before between rest, source.toList = before ++ between ++ rest ∧ byteSize before = first ∧
      byteSize (before ++ between) = last := by
  obtain ⟨between, joined⟩ := Text.upTo_prefix_upTo sorted source.toList
  obtain ⟨rest, whole⟩ := Text.upTo_isPrefix last source.toList
  refine ⟨upTo first source.toList, between, rest, ?_, one.byteSize_upTo, ?_⟩
  · rw [joined, whole]
  · rw [joined, other.byteSize_upTo]

theorem spanText_of_parts {context : Context} {before between rest : List Char}
    (whole : context.source.toList = before ++ between ++ rest) :
    context.spanText ⟨byteSize before, byteSize (before ++ between)⟩ = String.ofList between := by
  have cut := (Text.slice?_eq_some_iff ⟨byteSize before, byteSize (before ++ between)⟩ _ between).mpr
    ⟨before, rest, whole, rfl, rfl⟩
  rw [spanText, cut, Option.getD_some]

theorem spanText_eq_empty {context : Context} {span : Span}
    (outside : context.source.utf8ByteSize < span.stop ∨ span.stop < span.start ∨
      ¬ IsBoundary context.source span.start ∨ ¬ IsBoundary context.source span.stop) :
    context.spanText span = "" := by
  have nothing : Text.slice? span context.source.toList = none := by
    rw [Option.eq_none_iff_forall_not_mem]
    intro between cut
    obtain ⟨before, rest, whole, start, stop⟩ := (Text.slice?_eq_some_iff _ _ _).mp cut
    have first : IsBoundary context.source span.start :=
      (Text.isBoundary_iff _ _).mpr ⟨before, ⟨between ++ rest, by rw [whole, List.append_assoc]⟩, start⟩
    have last : IsBoundary context.source span.stop :=
      (Text.isBoundary_iff _ _).mpr ⟨before ++ between, ⟨rest, whole.symm⟩, stop⟩
    have inside := last.le_utf8ByteSize
    rw [Text.byteSize_append] at stop
    rcases outside with out | reversed | notFirst | notLast
    · omega
    · omega
    · exact notFirst first
    · exact notLast last
  rw [spanText, nothing]
  rfl

theorem spanText_append (context : Context) {first middle last : Nat} (one : IsBoundary context.source first)
    (other : IsBoundary context.source middle) (third : IsBoundary context.source last) (early : first ≤ middle)
    (late : middle ≤ last) :
    context.spanText ⟨first, middle⟩ ++ context.spanText ⟨middle, last⟩ = context.spanText ⟨first, last⟩ := by
  obtain ⟨before, left, behind, whole, rfl, rfl⟩ := exists_parts one other early
  obtain ⟨run, right, rest, again, same, rfl⟩ := exists_parts other third late
  have runs : run = before ++ left :=
    Text.eq_of_byteSize_eq ⟨right ++ rest, by rw [again, List.append_assoc]⟩ ⟨behind, whole.symm⟩ same
  subst runs
  have joined : context.source.toList = before ++ (left ++ right) ++ rest := by
    rw [again, List.append_assoc before]
  rw [spanText_of_parts whole, spanText_of_parts again, List.append_assoc before, spanText_of_parts joined,
    String.ofList_append]

/-- From one boundary to a later one the position moves by the text between them. Without a line feed in it, it
stays in its line and counts its characters. Otherwise it counts its line feeds, and the characters behind the last
one. Stretches that meet join up, and all other spans are empty. -/
theorem position_moves_by_spanText (context : Context) :
    (∀ first last, IsBoundary context.source first → IsBoundary context.source last → first ≤ last →
      ∃ before between rest, (context.spanText ⟨first, last⟩).toList = between ∧
        context.source.toList = before ++ between ++ rest ∧
        byteSize before = first ∧ byteSize between = last - first ∧
        ('\n' ∉ between → Position.ofOffset context.source last =
          ⟨(Position.ofOffset context.source first).line,
            (Position.ofOffset context.source first).column + between.length⟩) ∧
        ('\n' ∈ between → ∃ above left, between = above ++ '\n' :: left ∧ '\n' ∉ left ∧
          Position.ofOffset context.source last =
            ⟨(Position.ofOffset context.source first).line + between.count '\n', 1 + left.length⟩)) ∧
    (∀ first middle last, IsBoundary context.source first → IsBoundary context.source middle →
      IsBoundary context.source last → first ≤ middle → middle ≤ last →
      context.spanText ⟨first, middle⟩ ++ context.spanText ⟨middle, last⟩ = context.spanText ⟨first, last⟩) ∧
    ∀ span : Span, context.source.utf8ByteSize < span.stop ∨ span.stop < span.start ∨
      ¬ IsBoundary context.source span.start ∨ ¬ IsBoundary context.source span.stop →
      context.spanText span = "" := by
  refine ⟨?_, fun _ _ _ => context.spanText_append, fun _ => spanText_eq_empty⟩
  intro first last one other sorted
  obtain ⟨before, between, rest, whole, rfl, rfl⟩ := exists_parts one other sorted
  have begins : before <+: context.source.toList := ⟨between ++ rest, by rw [whole, List.append_assoc]⟩
  have reaches : before ++ between <+: context.source.toList := ⟨rest, whole.symm⟩
  rw [Position.ofOffset_byteSize begins, Position.ofOffset_byteSize reaches]
  refine ⟨before, between, rest, ?_, whole, rfl, ?_, ?_, ?_⟩
  · rw [spanText_of_parts whole, String.toList_ofList]
  · rw [Text.byteSize_append, Nat.add_sub_cancel_left]
  · exact fun sameLine => Position.following_append_of_not_mem sameLine before
  · intro fed
    obtain ⟨above, left, parts, sameLine⟩ := Text.exists_last_feed fed
    refine ⟨above, left, parts, sameLine, ?_⟩
    rw [parts]
    exact Position.following_append_feed sameLine before above

theorem position_moves_by_spanText_over_feed :
    ∃ context : Context, context.source = "a\u00e9\nbc" ∧
      (∃ between above left, (context.spanText ⟨1, 5⟩).toList = between ∧ between = above ++ '\n' :: left ∧
        '\n' ∉ left ∧ Position.ofOffset context.source 5 =
          ⟨(Position.ofOffset context.source 1).line + between.count '\n', 1 + left.length⟩) ∧
      context.spanText ⟨1, 3⟩ ++ context.spanText ⟨3, 5⟩ = context.spanText ⟨1, 5⟩ ∧
      context.spanText ⟨2, 5⟩ = "" := by
  obtain ⟨moves, joins, empty⟩ := position_moves_by_spanText ⟨"a\u00e9\nbc", .untyped, []⟩
  have one : IsBoundary "a\u00e9\nbc" 1 := by decide +kernel
  have three : IsBoundary "a\u00e9\nbc" 3 := by decide +kernel
  have five : IsBoundary "a\u00e9\nbc" 5 := by decide +kernel
  have insideCharacter : ¬ IsBoundary "a\u00e9\nbc" 2 := by decide +kernel
  obtain ⟨_, between, _, cut, -, -, -, -, overFeed⟩ := moves 1 5 one five (by decide)
  have fed : '\n' ∈ between := by
    rw [← cut]
    decide +kernel
  obtain ⟨above, left, parts, sameLine, moved⟩ := overFeed fed
  exact ⟨_, rfl, ⟨between, above, left, cut, parts, sameLine, moved⟩,
    joins 1 3 5 one three five (by decide) (by decide), empty ⟨2, 5⟩ (.inr (.inr (.inl insideCharacter)))⟩

end Context
end ScriptLint
