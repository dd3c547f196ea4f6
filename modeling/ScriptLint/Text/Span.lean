/-! Stretches of a source text, measured in bytes of its UTF-8 form. -/

namespace ScriptLint

/-- From the byte `start` up to, and without, the byte `stop`. -/
structure Span where
  start : Nat
  stop : Nat
  deriving DecidableEq, Repr, Inhabited

namespace Span

def through (first last : Span) : Span := ⟨first.start, last.stop⟩

def Within (inner outer : Span) : Prop := outer.start ≤ inner.start ∧ inner.stop ≤ outer.stop

def Before (first last : Span) : Prop := first.stop ≤ last.start

instance (inner outer : Span) : Decidable (inner.Within outer) :=
  inferInstanceAs (Decidable (_ ∧ _))

instance (first last : Span) : Decidable (first.Before last) :=
  inferInstanceAs (Decidable (_ ≤ _))

end Span
end ScriptLint
