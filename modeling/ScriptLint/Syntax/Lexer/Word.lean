import ScriptLint.Syntax.Lexer.Escape
import ScriptLint.Text.Identifier

/-! Names and keywords. -/

namespace ScriptLint.Syntax.Lexer

open ScriptLint.Text

def wordRest : Nat → (Char → Bool) → Scan → List Char → Bool → Except Issue (String × Bool × Scan)
  | 0, _, scan, reversed, escaped => .ok (String.ofList reversed.reverse, escaped, scan)
  | fuel + 1, allowed, scan, reversed, escaped =>
    match scan.rest with
    | '\\' :: 'u' :: _ =>
      match codePoint (scan.drop 2) with
      | none => .error .invalidEscape
      | some (code, after) =>
        let c := Char.ofNat code
        if allowed c then wordRest fuel Identifier.isPart after (c :: reversed) true
        else .error .invalidEscape
    | '\\' :: _ => .error .invalidCharacter
    | c :: _ =>
      if allowed c then wordRest fuel Identifier.isPart scan.next (c :: reversed) escaped
      else .ok (String.ofList reversed.reverse, escaped, scan)
    | [] => .ok (String.ofList reversed.reverse, escaped, scan)

def word (scan : Scan) : Except Issue (String × Bool × Scan) :=
  wordRest scan.fuel Identifier.isStart scan [] false

end ScriptLint.Syntax.Lexer
