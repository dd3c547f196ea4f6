import ScriptLint.Syntax.Lexer.Trivia
import ScriptLint.Text.Identifier

/-! Regular expressions between slashes. A slash inside brackets does not end one. -/

namespace ScriptLint.Syntax.Lexer

def patternRest : Nat → Scan → Bool → List Char → Except Issue (List Char × Scan)
  | 0, _, _, _ => .error .unterminatedRegexp
  | fuel + 1, scan, bracketed, reversed =>
    match scan.rest with
    | [] => .error .unterminatedRegexp
    | '\\' :: c :: _ =>
      if isLineBreak c then .error .unterminatedRegexp
      else patternRest fuel (scan.drop 2) bracketed (c :: '\\' :: reversed)
    | c :: _ =>
      if isLineBreak c then .error .unterminatedRegexp
      else if c = '/' && !bracketed then .ok (reversed.reverse, scan.next)
      else
        let bracketed := c = '[' || (bracketed && c != ']')
        patternRest fuel scan.next bracketed (c :: reversed)

def regexp (scan : Scan) : Except Issue (List Char × List Char × Scan) := do
  let (pattern, close) ← patternRest scan.fuel scan.next false []
  let (flags, behind) := close.takeWhile Text.Identifier.isPart
  return (pattern, flags, behind)

end ScriptLint.Syntax.Lexer
