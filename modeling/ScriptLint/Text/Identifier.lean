import ScriptLint.Text.Identifier.Ranges

/-! The characters of identifiers. -/

namespace ScriptLint.Text.Identifier

def isStart (c : Char) : Bool :=
  if c.toNat < 0x80 then c.isAlpha || c = '$' || c = '_' else startRanges.has c.toNat

/-- Besides the starting characters digits, and outside ASCII the property ID_Continue and the two
joiners of zero width. -/
def isPart (c : Char) : Bool :=
  if c.toNat < 0x80 then c.isAlphanum || c = '$' || c = '_'
  else c.toNat = 0x200C || c.toNat = 0x200D || partRanges.has c.toNat

end ScriptLint.Text.Identifier
