import ScriptLint.Json.Numeral
import ScriptLint.Json.Quoted

/-! Reading JSON values. A value that is kept may hold arrays and objects 127 levels deep; a value that
is skipped may be of any depth. -/

namespace ScriptLint.Json.Reader

def depthLimit : Nat := 128

def word : List Char → Cursor → Except Fault Cursor
  | [], cursor => .ok cursor
  | wanted :: more, cursor =>
    match cursor.rest with
    | [] => cursor.behind .endInValue
    | c :: _ => if c = wanted then word more cursor.next else cursor.ahead .noWord

def scalar (cursor : Cursor) : Except Fault (Option (Value × Cursor)) :=
  match cursor.rest with
  | [] => cursor.ahead .endInValue
  | 'n' :: _ => return some (.null, ← word "ull".toList cursor.next)
  | 't' :: _ => return some (.boolean true, ← word "rue".toList cursor.next)
  | 'f' :: _ => return some (.boolean false, ← word "alse".toList cursor.next)
  | '-' :: _ => do
    let (value, cursor) ← Numeral.read false cursor.next
    return some (.number value, cursor)
  | '"' :: _ => do
    let (value, cursor) ← Quoted.read cursor.next
    return some (.string value, cursor)
  | '[' :: _ | '{' :: _ => return none
  | c :: _ =>
    if c.isDigit then do
      let (value, cursor) ← Numeral.read true cursor
      return some (.number value, cursor)
    else cursor.ahead .noValue

def nextItem (first : Bool) (cursor : Cursor) : Except Fault (Option Cursor) :=
  let cursor := cursor.skipBlanks
  match cursor.rest with
  | [] => cursor.ahead .endInList
  | ']' :: _ => .ok none
  | c :: _ =>
    if first then .ok (some cursor)
    else if c = ',' then
      let cursor := cursor.next.skipBlanks
      match cursor.rest with
      | ']' :: _ => cursor.ahead .trailingComma
      | [] => cursor.ahead .endInValue
      | _ => .ok (some cursor)
    else cursor.ahead .noListEnd

def nextKey (first : Bool) (cursor : Cursor) : Except Fault (Option (String × Cursor)) :=
  let cursor := cursor.skipBlanks
  let key (cursor : Cursor) : Except Fault (Option (String × Cursor)) :=
    match cursor.rest with
    | '"' :: _ => return some (← Quoted.read cursor.next)
    | _ => cursor.ahead .keyNotString
  match cursor.rest with
  | [] => cursor.ahead .endInObject
  | '}' :: _ => .ok none
  | c :: _ =>
    if first then key cursor
    else if c = ',' then
      let cursor := cursor.next.skipBlanks
      match cursor.rest with
      | '}' :: _ => cursor.ahead .trailingComma
      | [] => cursor.ahead .endInValue
      | _ => key cursor
    else cursor.ahead .noObjectEnd

def colon (cursor : Cursor) : Except Fault Cursor :=
  let cursor := cursor.skipBlanks
  match cursor.rest with
  | ':' :: _ => .ok cursor.next
  | [] => cursor.ahead .endInObject
  | _ => cursor.ahead .noColon

def endList (cursor : Cursor) : Except Fault Cursor :=
  let cursor := cursor.skipBlanks
  match cursor.rest with
  | ']' :: _ => .ok cursor.next
  | ',' :: _ =>
    let cursor := cursor.next.skipBlanks
    match cursor.rest with
    | ']' :: _ => cursor.ahead .trailingComma
    | _ => cursor.ahead .trailingText
  | [] => cursor.ahead .endInList
  | _ => cursor.ahead .trailingText

mutual
/-- A value below `depth` open brackets. Each step reads a character or a closing bracket, so that
twice the length of the text is enough fuel. -/
def value : Nat → Nat → Cursor → Except Fault (Value × Cursor)
  | 0, _, cursor => cursor.ahead .tooDeep
  | fuel + 1, depth, cursor => do
    let cursor := cursor.skipBlanks
    match ← scalar cursor with
    | some result => .ok result
    | none =>
      if depth + 1 = depthLimit then cursor.ahead .tooDeep
      else match cursor.rest with
        | '[' :: _ => do
          let (found, cursor) ← items fuel (depth + 1) true cursor.next
          .ok (.array found, cursor)
        | _ => do
          let (found, cursor) ← members fuel (depth + 1) true cursor.next []
          .ok (.object found, cursor)

def items : Nat → Nat → Bool → Cursor → Except Fault (List Value × Cursor)
  | 0, _, _, cursor => cursor.ahead .tooDeep
  | fuel + 1, depth, first, cursor => do
    match ← nextItem first cursor with
    | none => .ok ([], cursor.skipBlanks.next)
    | some cursor =>
      let (item, cursor) ← value fuel depth cursor
      let (more, cursor) ← items fuel depth false cursor
      .ok (item :: more, cursor)

def members : Nat → Nat → Bool → Cursor → List (String × Value) → Except Fault (List (String × Value) × Cursor)
  | 0, _, _, cursor, _ => cursor.ahead .tooDeep
  | fuel + 1, depth, first, cursor, found => do
    match ← nextKey first cursor with
    | none => .ok (found, cursor.skipBlanks.next)
    | some (key, cursor) =>
      let cursor ← colon cursor
      let (member, cursor) ← value fuel depth cursor
      members fuel depth false cursor (insertMember key member found)
end

def fuelFor (cursor : Cursor) : Nat := 2 * cursor.rest.length + 2

def finish (cursor : Cursor) : Except Fault Unit :=
  let cursor := cursor.skipBlanks
  match cursor.rest with
  | [] => .ok ()
  | _ => cursor.ahead .trailingText

inductive Bracket where
  | list | object
  deriving DecidableEq

namespace Bracket

def close : Bracket → Char
  | list => ']'
  | object => '}'

def noEnd : Bracket → Cause
  | list => .noListEnd
  | object => .noObjectEnd

def atEnd : Bracket → Cause
  | list => .endInList
  | object => .endInObject

end Bracket

def skipKey (cursor : Cursor) : Except Fault Cursor :=
  let cursor := cursor.skipBlanks
  match cursor.rest with
  | '"' :: _ => do
    let cursor ← Quoted.skip cursor.next
    colon cursor
  | [] => cursor.ahead .endInObject
  | _ => cursor.ahead .keyNotString

def skipScalar (cursor : Cursor) : Except Fault (Option Cursor) :=
  match cursor.rest with
  | [] => cursor.ahead .endInValue
  | 'n' :: _ => some <$> word "ull".toList cursor.next
  | 't' :: _ => some <$> word "rue".toList cursor.next
  | 'f' :: _ => some <$> word "alse".toList cursor.next
  | '-' :: _ => some <$> Numeral.skip cursor.next
  | '"' :: _ => some <$> Quoted.skip cursor.next
  | '[' :: _ | '{' :: _ => .ok none
  | c :: _ => if c.isDigit then some <$> Numeral.skip cursor else cursor.ahead .noValue

def skipClosed : List Bracket → Bool → Cursor → Except Fault (Option (List Bracket × Cursor) × Cursor)
  | [], _, cursor => .ok (none, cursor)
  | bracket :: outer, comma, cursor =>
    let cursor := cursor.skipBlanks
    match cursor.rest with
    | [] => cursor.ahead bracket.atEnd
    | c :: _ =>
      if comma && c = ',' then .ok (some (bracket :: outer, cursor.next), cursor)
      else if c = bracket.close then skipClosed outer true cursor.next
      else if comma then cursor.ahead bracket.noEnd
      else .ok (some (bracket :: outer, cursor), cursor)

def skipValue : Nat → List Bracket → Cursor → Except Fault Cursor
  | 0, _, cursor => cursor.ahead .tooDeep
  | fuel + 1, stack, cursor => do
    let cursor := cursor.skipBlanks
    let (stack, comma, cursor) ← match ← skipScalar cursor with
      | some cursor => pure (stack, true, cursor)
      | none => match cursor.rest with
        | '[' :: _ => pure (Bracket.list :: stack, false, cursor.next)
        | _ => pure (Bracket.object :: stack, false, cursor.next)
    match ← skipClosed stack comma cursor with
    | (none, cursor) => .ok cursor
    | (some (stack, cursor), _) =>
      match stack with
      | .object :: _ => skipValue fuel stack (← skipKey cursor)
      | _ => skipValue fuel stack cursor

end ScriptLint.Json.Reader

namespace ScriptLint.Json

def Value.ofText (text : String) : Except Fault Value := do
  let cursor := Cursor.ofText text
  let (value, cursor) ← Reader.value (Reader.fuelFor cursor) 0 cursor
  Reader.finish cursor
  return value

end ScriptLint.Json
