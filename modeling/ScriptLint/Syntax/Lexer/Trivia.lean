import ScriptLint.Syntax.Issue
import ScriptLint.Syntax.Scan

/-! What separates tokens: blanks, line breaks and comments. -/

namespace ScriptLint.Syntax.Lexer

def isLineBreak (c : Char) : Bool :=
  c = '\n' || c = '\r' || c.toNat = 0x2028 || c.toNat = 0x2029

def isBlank (c : Char) : Bool :=
  let code := c.toNat
  code = 0x09 || code = 0x0B || code = 0x0C || code = 0x20 || code = 0x85 || code = 0xA0 || code = 0x1680 ||
    (0x2000 ≤ code && code ≤ 0x200B) || code = 0x202F || code = 0x205F || code = 0x3000 || code = 0xFEFF

def blockComment : List Char → Nat → Bool → Option (Bool × Nat × List Char)
  | [], _, _ => none
  | '*' :: '/' :: rest, offset, newline => some (newline, offset + 2, rest)
  | c :: rest, offset, newline => blockComment rest (offset + c.utf8Size) (newline || isLineBreak c)

def skipLine (scan : Scan) : Scan := scan.skipWhile (fun c => !isLineBreak c)

/-- The first place that is not inside a separator, and whether a line break came before it. Every
step reads a character. -/
def skipTrivia : Nat → Scan → Bool → Except Issue (Bool × Scan)
  | 0, scan, newline => .ok (newline, scan)
  | fuel + 1, scan, newline =>
    match scan.rest with
    | '/' :: '/' :: _ => skipTrivia fuel (skipLine scan) newline
    | '/' :: '*' :: rest =>
      match blockComment rest (scan.offset + 2) newline with
      | some (newline, offset, rest) => skipTrivia fuel { scan with offset, rest } newline
      | none => .error .unterminatedComment
    | c :: _ =>
      if isLineBreak c then skipTrivia fuel scan.next true
      else if isBlank c then skipTrivia fuel scan.next newline
      else .ok (newline, scan)
    | [] => .ok (newline, scan)

def skipInterpreter (scan : Scan) : Scan :=
  match scan.rest with
  | '#' :: '!' :: _ => skipLine scan
  | _ => scan

end ScriptLint.Syntax.Lexer
