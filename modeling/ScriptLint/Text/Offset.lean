import ScriptLint.Text.Span

/-! Byte offsets into a text that is held as a list of characters. An offset is a boundary when it
is the size of some number of whole leading characters. -/

namespace ScriptLint.Text

def byteSize : List Char → Nat
  | [] => 0
  | c :: rest => c.utf8Size + byteSize rest

def upTo : Nat → List Char → List Char
  | _, [] => []
  | offset, c :: rest => if c.utf8Size ≤ offset then c :: upTo (offset - c.utf8Size) rest else []

def after? : Nat → List Char → Option (List Char)
  | 0, text => some text
  | _, [] => none
  | offset, c :: rest => if c.utf8Size ≤ offset then after? (offset - c.utf8Size) rest else none

def first? : Nat → List Char → Option (List Char)
  | 0, _ => some []
  | _, [] => none
  | offset, c :: rest =>
    if c.utf8Size ≤ offset then (first? (offset - c.utf8Size) rest).map (c :: ·) else none

/-- The characters inside a span, if the span is not reversed and both of its ends are boundaries. -/
def slice? (span : Span) (text : List Char) : Option (List Char) :=
  if span.start ≤ span.stop then (after? span.start text).bind (first? (span.stop - span.start))
  else none

@[simp] theorem byteSize_append (first last : List Char) :
    byteSize (first ++ last) = byteSize first + byteSize last := by
  induction first with
  | nil => simp [byteSize]
  | cons c rest ih => simp [byteSize, ih, Nat.add_assoc]

theorem length_le_byteSize (text : List Char) : text.length ≤ byteSize text := by
  induction text with
  | nil => simp [byteSize]
  | cons c rest ih =>
    have := c.utf8Size_pos
    simp only [List.length_cons, byteSize]
    omega

theorem upTo_isPrefix (offset : Nat) (text : List Char) : upTo offset text <+: text := by
  induction text generalizing offset with
  | nil => simp [upTo]
  | cons c rest ih =>
    rw [upTo]
    split
    · exact (List.prefix_cons_inj c).2 (ih _)
    · exact List.nil_prefix

theorem byteSize_upTo_le (offset : Nat) (text : List Char) : byteSize (upTo offset text) ≤ offset := by
  induction text generalizing offset with
  | nil => simp [upTo, byteSize]
  | cons c rest ih =>
    rw [upTo]
    split
    · rename_i fits
      have := ih (offset - c.utf8Size)
      simp only [byteSize]
      omega
    · simp [byteSize]

end ScriptLint.Text
