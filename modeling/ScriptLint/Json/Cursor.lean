import ScriptLint.Json.Fault
import ScriptLint.Text.Offset

/-! A place in a JSON text together with what follows it. -/

namespace ScriptLint.Json

def Place.past (place : Place) (c : Char) : Place :=
  if c = '\n' then ⟨place.line + 1, 0⟩ else ⟨place.line, place.column + c.utf8Size⟩

structure Cursor where
  place : Place
  rest : List Char
  deriving Repr

namespace Cursor

def ofText (text : String) : Cursor := ⟨⟨1, 0⟩, text.toList⟩

def next (cursor : Cursor) : Cursor :=
  match cursor.rest with
  | [] => cursor
  | c :: rest => ⟨cursor.place.past c, rest⟩

def placeAhead (cursor : Cursor) (bytes : Nat) : Place := go cursor.rest bytes cursor.place
where
  go : List Char → Nat → Place → Place
    | _, 0, place => place
    | [], _, place => place
    | c :: rest, bytes, place =>
      if c.utf8Size ≤ bytes then go rest (bytes - c.utf8Size) (place.past c)
      else ⟨place.line, place.column + bytes⟩

def behind {A : Type} (cursor : Cursor) (cause : Cause) : Except Fault A := .error ⟨cause, cursor.place⟩

/-- A fault of the next byte, which counts as read; at the end of the text nothing more is read. -/
def ahead {A : Type} (cursor : Cursor) (cause : Cause) : Except Fault A :=
  .error ⟨cause, cursor.placeAhead 1⟩

def isBlank (c : Char) : Bool := c = ' ' || c = '\n' || c = '\t' || c = '\r'

def skipWhile (kind : Char → Bool) (cursor : Cursor) : Cursor := go cursor.rest cursor.place
where
  go : List Char → Place → Cursor
    | [], place => ⟨place, []⟩
    | c :: rest, place => if kind c then go rest (place.past c) else ⟨place, c :: rest⟩

def skipBlanks (cursor : Cursor) : Cursor := cursor.skipWhile isBlank

end Cursor
end ScriptLint.Json
