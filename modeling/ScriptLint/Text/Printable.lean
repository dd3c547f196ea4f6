import ScriptLint.Text.Printable.Ranges

/-! The characters that show by themselves when a text is printed. -/

namespace ScriptLint.Text.Printable

/-- Neither a control character nor a blank other than the space, nor one that attaches to the
character before it. -/
def isPrintable (c : Char) : Bool :=
  if c.toNat < 0x80 then 0x20 ≤ c.toNat && c.toNat < 0x7F
  else !invisibleRanges.has c.toNat && !extendingRanges.has c.toNat

end ScriptLint.Text.Printable
