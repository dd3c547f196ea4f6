import ScriptLint.Syntax.Lexer.Word
import ScriptLint.Syntax.Lexer.Numeral
import ScriptLint.Syntax.Lexer.Quoted

/-! The next token of a source text. A slash is read as a mark and a `>` alone; where the parser knows
better it reads the token again. -/

namespace ScriptLint.Syntax.Lexer

def markOf (marks : List Mark) (scan : Scan) : Option (Mark × Scan) :=
  marks.findSome? fun mark => (scan.past? mark.text.toList).map fun after => (mark, after)

def mark (scan : Scan) : Option (Mark × Scan) :=
  match scan.rest with
  -- before a digit this is a conditional and a number without a whole part
  | '?' :: '.' :: c :: _ => if c.isDigit then some (.question, scan.next) else markOf Mark.others scan
  | _ => markOf Mark.others scan

def invalid (issue : Issue) (scan : Scan) : TokenKind × Bool × Scan := (.invalid issue, false, scan)

def ofNumeral (scan : Scan) : TokenKind × Bool × Scan :=
  match numeral scan with
  | .ok (.number digits, after) => (.number digits, false, after)
  | .ok (.bigint digits, after) => (.bigint digits, false, after)
  | .error issue => invalid issue scan.next

def ofWord (build : String → TokenKind) (scan : Scan) : TokenKind × Bool × Scan :=
  match word scan with
  | .error issue => invalid issue scan.next
  | .ok (name, escaped, after) =>
    if name.isEmpty then invalid .invalidCharacter scan.next else (build name, escaped, after)

def kindAt (scan : Scan) : TokenKind × Bool × Scan :=
  match scan.rest with
  | [] => (.ending, false, scan)
  | c :: rest =>
    if c = '"' || c = '\'' then
      match string c scan with
      | .ok (value, after) => (.string value, false, after)
      | .error issue => invalid issue scan.next
    else if c = '`' then
      match template scan with
      | .ok (kind, after) => (kind, false, after)
      | .error issue => invalid issue scan.next
    else if c.isDigit || (c = '.' && rest.head?.any Char.isDigit) then ofNumeral scan
    else if c = '#' then
      match ofWord .privateName scan.next with
      | (.invalid _, _, after) => invalid .invalidCharacter after
      | found => found
    else if Text.Identifier.isStart c || c = '\\' then ofWord .word scan
    else match mark scan with
      | some (found, after) => (.mark found, false, after)
      | none => invalid .invalidCharacter scan.next

def token (scan : Scan) : Token × Scan :=
  match skipTrivia scan.fuel scan false with
  | .error issue => (⟨.invalid issue, scan, scan.offset, false, false⟩, { scan with rest := [] })
  | .ok (newline, start) =>
    let (kind, escaped, after) := kindAt start
    (⟨kind, start, after.offset, newline, escaped⟩, after)

end ScriptLint.Syntax.Lexer
