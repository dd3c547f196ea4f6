import ScriptLint.Syntax.Scan

/-! Moving through a text. A place is known by what follows it, so that each step is described by the text that it
leaves. -/

namespace ScriptLint.Syntax

namespace Scan

theorem rest_next (scan : Scan) : scan.next.rest = scan.rest.tail := by
  unfold next
  split
  · rename_i none
    rw [none, List.tail_nil]
  · rename_i some
    rw [some, List.tail_cons]

theorem rest_next_of_cons {c : Char} {rest : List Char} {scan : Scan} (starts : scan.rest = c :: rest) :
    scan.next.rest = rest := by
  rw [rest_next, starts, List.tail_cons]

theorem rest_drop (count : Nat) (scan : Scan) : (scan.drop count).rest = scan.rest.drop count := by
  induction count generalizing scan with
  | zero => rfl
  | succ count ih => rw [drop, ih, rest_next, List.drop_tail]

theorem takeWhile_go (kind : Char → Bool) (scan : Scan) (text : List Char) (offset : Nat) (reversed : List Char) :
    (takeWhile.go kind scan text offset reversed).1 = reversed.reverse ++ text.takeWhile kind ∧
      (takeWhile.go kind scan text offset reversed).2.rest = text.dropWhile kind := by
  induction text generalizing offset reversed with
  | nil => simp [takeWhile.go]
  | cons c rest ih =>
    rw [takeWhile.go]
    cases is : kind c with
    | true => simp [ih, is]
    | false => simp [is]

theorem length_takeWhile_add (kind : Char → Bool) (scan : Scan) :
    (scan.takeWhile kind).1.length + (scan.takeWhile kind).2.rest.length = scan.rest.length := by
  obtain ⟨taken, left⟩ := takeWhile_go kind scan scan.rest scan.offset []
  rw [takeWhile, taken, left, List.reverse_nil, List.nil_append, ← List.length_append, List.takeWhile_append_dropWhile]

theorem length_of_past? {wanted : List Char} {scan after : Scan} (passed : scan.past? wanted = some after) :
    after.rest.length + wanted.length = scan.rest.length := by
  induction wanted generalizing scan with
  | nil =>
    cases passed
    rfl
  | cons first more ih =>
    unfold past? at passed
    split at passed
    · contradiction
    · contradiction
    · rename_i w ws c cs same starts
      obtain ⟨rfl, rfl⟩ := List.cons.inj same
      split at passed
      · have whole := ih passed
        rw [rest_next_of_cons starts] at whole
        rw [starts, List.length_cons, List.length_cons, ← whole]
        rfl
      · contradiction

theorem takeWhile_of_stop {kind : Char → Bool} {front back : List Char} (all : ∀ c ∈ front, kind c = true)
    {stop : Char} (stops : kind stop = false) {scan : Scan} (starts : scan.rest = front ++ stop :: back) :
    (scan.takeWhile kind).1 = front ∧ (scan.takeWhile kind).2.rest = stop :: back := by
  obtain ⟨taken, left⟩ := takeWhile_go kind scan scan.rest scan.offset []
  have notKind : ¬ kind stop = true := by rw [stops]; exact Bool.false_ne_true
  rw [starts, List.takeWhile_append_of_pos all, List.takeWhile_cons_of_neg notKind, List.append_nil] at taken
  rw [starts, List.dropWhile_append_of_pos all, List.dropWhile_cons_of_neg notKind] at left
  rw [← starts] at taken left
  exact ⟨taken, left⟩

theorem past?_of_starts (wanted : List Char) {rest : List Char} {scan : Scan} (starts : scan.rest = wanted ++ rest) :
    ∃ after, scan.past? wanted = some after ∧ after.rest = rest := by
  induction wanted generalizing scan with
  | nil =>
    refine ⟨scan, ?_, starts⟩
    unfold past?
    rfl
  | cons c wanted ih =>
    obtain ⟨after, passed, left⟩ := ih (rest_next_of_cons starts)
    refine ⟨after, ?_, left⟩
    unfold past?
    rw [starts]
    simp only [List.cons_append, if_true]
    exact passed

end Scan

end ScriptLint.Syntax
