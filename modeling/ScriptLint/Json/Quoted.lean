import ScriptLint.Json.Cursor

/-! Reading quoted strings. Surrogate escapes have to come in pairs, except where the string is skipped. -/

namespace ScriptLint.Json.Quoted

def hexValue? (c : Char) : Option Nat :=
  if c.isDigit then some (c.toNat - 48)
  else if 'a' ≤ c ∧ c ≤ 'f' then some (c.toNat - 87)
  else if 'A' ≤ c ∧ c ≤ 'F' then some (c.toNat - 55)
  else none

def codeUnit (cursor : Cursor) : Except Fault (Nat × Cursor) :=
  -- four bytes are read before they are looked at
  let fault := if Text.byteSize cursor.rest < 4 then Cause.endInString else Cause.badEscape
  let fail : Except Fault (Nat × Cursor) := .error ⟨fault, cursor.placeAhead 4⟩
  match cursor.rest with
  | a :: b :: c :: d :: _ =>
    match hexValue? a, hexValue? b, hexValue? c, hexValue? d with
    | some a, some b, some c, some d =>
      .ok (((a * 16 + b) * 16 + c) * 16 + d, cursor.next.next.next.next)
    | _, _, _, _ => fail
  | _ => fail

def expect (wanted : Char) (cursor : Cursor) : Except Fault Cursor :=
  match cursor.rest with
  | [] => cursor.behind .endInString
  | c :: _ => if c = wanted then .ok cursor.next else cursor.ahead .unpairedSurrogate

def unicodeEscape (cursor : Cursor) : Except Fault (Char × Cursor) := do
  let (high, cursor) ← codeUnit cursor
  if 0xDC00 ≤ high ∧ high ≤ 0xDFFF then cursor.behind .loneSurrogate
  else if high < 0xD800 ∨ 0xDBFF < high then .ok (Char.ofNat high, cursor)
  else
    let cursor ← expect '\\' cursor
    let cursor ← expect 'u' cursor
    let (low, cursor) ← codeUnit cursor
    if low < 0xDC00 ∨ 0xDFFF < low then cursor.behind .loneSurrogate
    else .ok (Char.ofNat (0x10000 + (high - 0xD800) * 0x400 + (low - 0xDC00)), cursor)

def simpleEscape? (c : Char) : Option Char :=
  match c with
  | '"' => some '"'
  | '\\' => some '\\'
  | '/' => some '/'
  | 'b' => some (Char.ofNat 8)
  | 'f' => some (Char.ofNat 12)
  | 'n' => some '\n'
  | 'r' => some '\r'
  | 't' => some '\t'
  | _ => none

def escape (cursor : Cursor) : Except Fault (Char × Cursor) :=
  match cursor.rest with
  | [] => cursor.behind .endInString
  | 'u' :: _ => unicodeEscape cursor.next
  | c :: _ =>
    match simpleEscape? c with
    | some meant => .ok (meant, cursor.next)
    | none => cursor.ahead .badEscape

/-- What follows the opening quote. Every step reads a character, so that the length of the text is
enough fuel. -/
def read (cursor : Cursor) : Except Fault (String × Cursor) := go (cursor.rest.length + 1) cursor []
where
  go : Nat → Cursor → List Char → Except Fault (String × Cursor)
    | 0, cursor, _ => cursor.behind .endInString
    | fuel + 1, cursor, reversed =>
      match cursor.rest with
      | [] => cursor.behind .endInString
      | '"' :: _ => .ok (String.ofList reversed.reverse, cursor.next)
      | '\\' :: _ => do
        let (c, cursor) ← escape cursor.next
        go fuel cursor (c :: reversed)
      | c :: _ =>
        if c.toNat < 32 then cursor.ahead .controlCharacter else go fuel cursor.next (c :: reversed)

def skip (cursor : Cursor) : Except Fault Cursor := go (cursor.rest.length + 1) cursor
where
  go : Nat → Cursor → Except Fault Cursor
    | 0, cursor => cursor.behind .endInString
    | fuel + 1, cursor =>
      match cursor.rest with
      | [] => cursor.behind .endInString
      | '"' :: _ => .ok cursor.next
      | '\\' :: _ =>
        let cursor := cursor.next
        match cursor.rest with
        | [] => cursor.behind .endInString
        | 'u' :: _ => do
          let (_, cursor) ← codeUnit cursor.next
          go fuel cursor
        | c :: _ => if (simpleEscape? c).isSome then go fuel cursor.next else cursor.ahead .badEscape
      | c :: _ => if c.toNat < 32 then cursor.behind .controlCharacter else go fuel cursor.next

end ScriptLint.Json.Quoted
