import ScriptLint.Syntax.Parser.Name

/-! The operators and how strongly they bind. -/

namespace ScriptLint.Syntax.Parse

def comparing : Nat := 8

def strength? (typed inOperator : Bool) : TokenKind → Option Nat
  | .mark mark =>
    match mark with
    | .coalesce => some 1
    | .orElse => some 2
    | .andAlso => some 3
    | .bitOr => some 4
    | .bitXor => some 5
    | .bitAnd => some 6
    | .equal | .notEqual | .same | .notSame => some 7
    | .less | .greater | .lessEqual | .greaterEqual => some comparing
    | .shiftLeft | .shiftRight | .shiftRightZero => some 9
    | .plus | .minus => some 10
    | .star | .slash | .percent => some 11
    | .power => some 12
    | _ => none
  | .word "instanceof" => some comparing
  | .word "in" => if inOperator then some comparing else none
  | .word "as" | .word "satisfies" => if typed then some comparing else none
  | _ => none

/-- The token starts an expression and nothing else, so that type arguments do not end in front of it.
Words that are keywords somewhere leave this open. -/
def startsExpression (token : Token) : Bool :=
  match token.kind with
  | .word name => !isKeyword name || ["await", "class", "delete", "false", "function", "import", "new", "null",
      "private", "super", "this", "true", "typeof", "void", "yield"].contains name
  | .number _ | .bigint _ | .string _ | .template _ _ => true
  | .mark mark => [Mark.braceOpen, .parenOpen, .bracketOpen, .plus, .minus, .tilde, .bang, .increment,
      .decrement, .less, .slash, .slashAssign, .atSign].contains mark
  | _ => false

def isOperator (inOperator : Bool) (token : Token) : Bool := (strength? true inOperator token.kind).isSome

def joinsValues (token : Token) : Bool :=
  match token.kind with
  | .mark mark => mark.isAssignment || (strength? false true token.kind).any (3 < ·)
  | .word "in" | .word "instanceof" => true
  | _ => false

def isUnary : TokenKind → Bool
  | .mark .plus | .mark .minus | .mark .tilde | .mark .bang => true
  | .word "delete" | .word "typeof" | .word "void" => true
  | _ => false

def isUpdate : TokenKind → Bool
  | .mark .increment | .mark .decrement => true
  | _ => false

end ScriptLint.Syntax.Parse
