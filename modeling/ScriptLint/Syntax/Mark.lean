/-! Punctuation marks and operators. -/

namespace ScriptLint.Syntax

inductive Mark where
  | braceOpen | braceClose | parenOpen | parenClose | bracketOpen | bracketClose
  | dot | ellipsis | semicolon | comma | colon | question | questionDot | arrow | atSign
  | less | greater | lessEqual | greaterEqual | equal | notEqual | same | notSame
  | plus | minus | star | slash | percent | power | increment | decrement
  | shiftLeft | shiftRight | shiftRightZero | bitAnd | bitOr | bitXor | bang | tilde
  | andAlso | orElse | coalesce
  | assign | plusAssign | minusAssign | starAssign | slashAssign | percentAssign | powerAssign
  | shiftLeftAssign | shiftRightAssign | shiftRightZeroAssign
  | bitAndAssign | bitOrAssign | bitXorAssign | andAlsoAssign | orElseAssign | coalesceAssign
  deriving DecidableEq, Repr, Inhabited

namespace Mark

def text : Mark → String
  | braceOpen => "\x7b" | braceClose => "\x7d" | parenOpen => "(" | parenClose => ")"
  | bracketOpen => "[" | bracketClose => "]"
  | dot => "." | ellipsis => "..." | semicolon => ";" | comma => "," | colon => ":"
  | question => "?" | questionDot => "?." | arrow => "=>" | atSign => "@"
  | less => "<" | greater => ">" | lessEqual => "<=" | greaterEqual => ">="
  | equal => "==" | notEqual => "!=" | same => "===" | notSame => "!=="
  | plus => "+" | minus => "-" | star => "*" | slash => "/" | percent => "%" | power => "**"
  | increment => "++" | decrement => "--"
  | shiftLeft => "<<" | shiftRight => ">>" | shiftRightZero => ">>>"
  | bitAnd => "&" | bitOr => "|" | bitXor => "^" | bang => "!" | tilde => "~"
  | andAlso => "&&" | orElse => "||" | coalesce => "??"
  | assign => "=" | plusAssign => "+=" | minusAssign => "-=" | starAssign => "*="
  | slashAssign => "/=" | percentAssign => "%=" | powerAssign => "**="
  | shiftLeftAssign => "<<=" | shiftRightAssign => ">>=" | shiftRightZeroAssign => ">>>="
  | bitAndAssign => "&=" | bitOrAssign => "|=" | bitXorAssign => "^="
  | andAlsoAssign => "&&=" | orElseAssign => "||=" | coalesceAssign => "??="

/-- The marks that start with `>` and are longer, the longest first. Where a `>` may close type
arguments or a tag it stands alone. -/
def afterGreater : List Mark :=
  [shiftRightZeroAssign, shiftRightAssign, shiftRightZero, greaterEqual, shiftRight]

def others : List Mark := [
  powerAssign, shiftLeftAssign, andAlsoAssign, orElseAssign, coalesceAssign, ellipsis, same, notSame,
  questionDot, arrow, lessEqual, equal, notEqual, power, increment, decrement, shiftLeft,
  andAlso, orElse, coalesce, plusAssign, minusAssign, starAssign, slashAssign, percentAssign,
  bitAndAssign, bitOrAssign, bitXorAssign,
  braceOpen, braceClose, parenOpen, parenClose, bracketOpen, bracketClose, dot, semicolon, comma,
  colon, question, atSign, less, greater, plus, minus, star, slash, percent, bitAnd, bitOr, bitXor,
  bang, tilde, assign]

def isAssignment : Mark → Bool
  | assign | plusAssign | minusAssign | starAssign | slashAssign | percentAssign | powerAssign
  | shiftLeftAssign | shiftRightAssign | shiftRightZeroAssign
  | bitAndAssign | bitOrAssign | bitXorAssign | andAlsoAssign | orElseAssign | coalesceAssign => true
  | _ => false

end Mark
end ScriptLint.Syntax
