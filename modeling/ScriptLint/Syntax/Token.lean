import ScriptLint.Syntax.Issue
import ScriptLint.Syntax.Mark
import ScriptLint.Syntax.Node
import ScriptLint.Syntax.Scan

/-! Tokens. Keywords are words like all others; which of them are reserved depends on where they stand. -/

namespace ScriptLint.Syntax

inductive TokenKind where
  | ending
  | word (name : String)
  | privateName (name : String)
  | number (digits : String)
  | bigint (digits : String)
  | string (value : String)
  | template (quasi : Quasi) (closes : Bool)
  | mark (mark : Mark)
  | invalid (issue : Issue)
  deriving DecidableEq, Repr, Inhabited

structure Token where
  kind : TokenKind
  start : Scan
  stop : Nat
  newline : Bool
  escaped : Bool := false
  deriving Repr, Inhabited

def TokenKind.text : TokenKind → String
  | ending => "EOF"
  | word name => name
  | privateName name => "#" ++ name
  | number digits | bigint digits => digits
  | string _ => "string"
  | template _ _ => "template"
  | .mark found => found.text
  | invalid _ => "Undetermined"

def Token.span (token : Token) : Span := ⟨token.start.offset, token.stop⟩

def isReserved (name : String) : Bool :=
  ["break", "case", "catch", "class", "const", "continue", "debugger", "default", "delete", "do", "else",
    "enum", "export", "extends", "false", "finally", "for", "function", "if", "import", "in",
    "instanceof", "new", "null", "return", "super", "switch", "this", "throw", "true", "try", "typeof",
    "var", "void", "while", "with"].contains name

/-- The words that are keywords somewhere. These are not written with escapes where they are. -/
def isKeyword (name : String) : Bool :=
  isReserved name || ["abstract", "accessor", "any", "as", "assert", "asserts", "async", "await", "bigint",
    "boolean", "constructor", "declare", "defer", "from", "get", "global", "implements", "infer", "interface",
    "intrinsic", "is", "keyof", "let", "meta", "module", "namespace", "never", "number", "object",
    "of", "out", "override", "package", "private", "protected", "public", "readonly", "require",
    "satisfies", "set", "source", "static", "string", "symbol", "target", "type", "undefined",
    "unique", "unknown", "using", "yield"].contains name

end ScriptLint.Syntax
