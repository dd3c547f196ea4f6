import ScriptLint.Text.Offset

/-! Lines and columns of a source text. Both count from one; a column counts characters, and only a
line feed ends a line. -/

namespace ScriptLint

structure Position where
  line : Nat
  column : Nat
  deriving DecidableEq, Repr

namespace Position

def following (text : List Char) : Position where
  line := text.count '\n' + 1
  column := (text.reverse.takeWhile (· != '\n')).length + 1

/-- The position of a byte offset. An offset past the end is the end's, one inside a character the
start's of that character. -/
def ofOffset (source : String) (offset : Nat) : Position :=
  following (Text.upTo offset source.toList)

end Position
end ScriptLint
