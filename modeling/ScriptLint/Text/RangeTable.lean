/-! Sets of characters, as the ranges of their code points. -/

namespace ScriptLint.Text

/-- Ranges of code points with both ends included, in rising order. -/
abbrev RangeTable := List (Nat × Nat)

def RangeTable.has : RangeTable → Nat → Bool
  | [], _ => false
  | (low, high) :: rest, code => low ≤ code && (code ≤ high || RangeTable.has rest code)

end ScriptLint.Text
