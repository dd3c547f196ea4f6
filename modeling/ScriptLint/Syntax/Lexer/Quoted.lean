import ScriptLint.Syntax.Token
import ScriptLint.Syntax.Lexer.Escape

/-! Strings, and the stretches of templates between substitutions. -/

namespace ScriptLint.Syntax.Lexer

def stringRest : Nat → Char → Scan → List Char → Except Issue (String × Scan)
  | 0, _, _, _ => .error .unterminatedString
  | fuel + 1, quote, scan, reversed =>
    match scan.rest with
    | [] => .error .unterminatedString
    | '\\' :: _ =>
      match escape false scan.next with
      | some (meant, after) => stringRest fuel quote after (meant.reverse ++ reversed)
      | none => if scan.next.rest.isEmpty then .error .unterminatedString else .error .invalidEscape
    | c :: _ =>
      if c = quote then .ok (String.ofList reversed.reverse, scan.next)
      -- the separators of lines and paragraphs may stand in a string
      else if c = '\n' || c = '\r' then .error .unterminatedString
      else stringRest fuel quote scan.next (c :: reversed)

def string (quote : Char) (scan : Scan) : Except Issue (String × Scan) :=
  stringRest scan.fuel quote scan.next []

/-- The next piece of the text of a template: how it is written, what it means unless it is a malformed escape,
and the place behind it. A line break in the text is a line feed, however it is written. -/
def templatePiece (scan : Scan) : List Char × Option (List Char) × Scan :=
  match scan.rest with
  | [] => ([], some [], scan)
  | '\\' :: '\r' :: '\n' :: _ => (['\\', '\n'], some [], scan.drop 3)
  | '\\' :: '\r' :: _ => (['\\', '\n'], some [], scan.drop 2)
  | '\\' :: c :: _ =>
    match escape true scan.next with
    | some (meant, after) => (scan.rest.take (scan.rest.length - after.rest.length), some meant, after)
    | none => (['\\', c], none, scan.drop 2)
  | '\r' :: '\n' :: _ => (['\n'], some ['\n'], scan.drop 2)
  | '\r' :: _ => (['\n'], some ['\n'], scan.next)
  | c :: _ => ([c], some [c], scan.next)

def templateRest : Nat → Scan → List Char → Option (List Char) → Except Issue (TokenKind × Scan)
  | 0, _, _, _ => .error .unterminatedString
  | fuel + 1, scan, raw, cooked =>
    let quasi : Quasi := ⟨String.ofList raw.reverse, cooked.map fun text => String.ofList text.reverse⟩
    match scan.rest with
    | [] => .error .unterminatedString
    | '`' :: _ => .ok (.template quasi true, scan.next)
    | '$' :: '{' :: _ => .ok (.template quasi false, scan.drop 2)
    | _ =>
      let (written, meant, after) := templatePiece scan
      templateRest fuel after (written.reverse ++ raw)
        (cooked.bind fun text => meant.map fun meant => meant.reverse ++ text)

def template (scan : Scan) : Except Issue (TokenKind × Scan) :=
  templateRest scan.fuel scan.next [] (some [])

end ScriptLint.Syntax.Lexer
