import ScriptLint.Lint.Config
import ScriptLint.Text.Quoted

/-! Reading a configuration from JSON. The text is an object with a member `rules`, or a list with the
value of that member as its one item; other members are skipped. -/

namespace ScriptLint.ConfigText

inductive Shape where
  | config | rules
  deriving DecidableEq

def Shape.text : Shape → String
  | config => "struct RawConfig"
  | rules => "a map"

inductive Fault where
  | json (fault : Json.Fault)
  | wrongType (value : Json.Value) (wanted : Shape) (place : Json.Place)
  | repeatedRules (place : Json.Place)
  | notLevel (value : Json.Value) (place : Json.Place)

def typeText : Json.Value → String
  | .null => "null"
  | .boolean value => "boolean `" ++ (if value then "true" else "false") ++ "`"
  | .number (.real value) => "floating point `" ++ (Json.Number.real value).render ++ "`"
  | .number value => "integer `" ++ value.render ++ "`"
  | .string value => "string " ++ Text.quoted value
  | .array _ => "sequence"
  | .object _ => "map"

def Fault.message : Fault → String
  | json fault => fault.message
  | wrongType value wanted place =>
    "invalid type: " ++ typeText value ++ ", expected " ++ wanted.text ++ place.note
  | repeatedRules place => "duplicate field `rules`" ++ place.note
  | notLevel value place => Level.complaint value ++ place.note

structure Entry where
  key : String
  value : Json.Value
  after : Json.Place

/-- The entries that were read, and the first fault of the text or the cursor behind what was read. -/
structure Reading where
  entries : List Entry
  outcome : Except Fault Json.Cursor

open Json (Cursor Place)
open Json.Reader (nextItem nextKey colon endList)

def Reading.fail (entries : List Entry) (fault : Json.Fault) : Reading := ⟨entries, .error (.json fault)⟩

def placeAfter (cursor : Cursor) : Place :=
  let cursor := cursor.skipBlanks
  match cursor.rest with
  | '}' :: _ => cursor.next.place
  | _ => cursor.place

def wrongType (wanted : Shape) (cursor : Cursor) : Fault :=
  match Json.Reader.scalar cursor with
  | .error fault => .json fault
  | .ok (some (value, cursor)) => .wrongType value wanted cursor.place
  | .ok none =>
    match cursor.rest with
    | '[' :: _ => .wrongType (.array []) wanted cursor.place
    | _ => .wrongType (.object []) wanted cursor.place

def members : Nat → Bool → Cursor → List Entry → Reading
  | 0, _, cursor, found => ⟨found, .ok cursor⟩
  | fuel + 1, first, cursor, found =>
    match nextKey first cursor with
    | .error fault => .fail found fault
    | .ok none => ⟨found, .ok cursor.skipBlanks.next⟩
    | .ok (some (key, cursor)) =>
      match (do Json.Reader.value (Json.Reader.fuelFor cursor) 2 (← colon cursor)) with
      | .error fault => .fail found fault
      | .ok (value, cursor) =>
        members fuel false cursor (found ++ [⟨key, value, placeAfter cursor⟩])

def rules (cursor : Cursor) : Reading :=
  let cursor := cursor.skipBlanks
  match cursor.rest with
  | [] => .fail [] ⟨.endInValue, cursor.place⟩
  | '{' :: _ => members (Json.Reader.fuelFor cursor) true cursor.next []
  | _ => ⟨[], .error (wrongType .rules cursor)⟩

def object : Nat → Bool → Cursor → Option (List Entry) → Reading
  | 0, _, cursor, found => ⟨found.getD [], .ok cursor⟩
  | fuel + 1, first, cursor, found =>
    match nextKey first cursor with
    | .error fault => .fail (found.getD []) fault
    | .ok none => ⟨found.getD [], .ok cursor.skipBlanks.next⟩
    | .ok (some (key, cursor)) =>
      if key = "rules" then
        match found with
        | some entries => ⟨entries, .error (.repeatedRules (placeAfter cursor))⟩
        | none =>
          match colon cursor with
          | .error fault => .fail [] fault
          | .ok cursor =>
            match rules cursor with
            | ⟨entries, .ok cursor⟩ => object fuel false cursor (some entries)
            | reading => reading
      else
        match (do Json.Reader.skipValue (Json.Reader.fuelFor cursor) [] (← colon cursor)) with
        | .error fault => .fail (found.getD []) fault
        | .ok cursor => object fuel false cursor found

def list (cursor : Cursor) : Reading :=
  match nextItem true cursor with
  | .error fault => .fail [] fault
  | .ok item =>
    let reading : Reading := match item with
      | none => ⟨[], .ok cursor⟩
      | some cursor => rules cursor
    match reading.outcome with
    | .error _ => reading
    | .ok cursor =>
      match endList cursor with
      | .error fault => .fail reading.entries fault
      | .ok cursor => { reading with outcome := .ok cursor }

def read (text : String) : Reading :=
  let cursor := (Cursor.ofText text).skipBlanks
  let reading : Reading := match cursor.rest with
    | [] => .fail [] ⟨.endInValue, cursor.place⟩
    | '{' :: _ => object (Json.Reader.fuelFor cursor) true cursor.next none
    | '[' :: _ => list cursor.next
    | _ => ⟨[], .error (wrongType .config cursor)⟩
  match reading.outcome with
  | .error _ => reading
  | .ok cursor =>
    match Json.Reader.finish cursor with
    | .error fault => .fail reading.entries fault
    | .ok () => reading

def levels : List Entry → Except Fault (List (String × Level))
  | [] => .ok []
  | entry :: rest =>
    match Level.ofJson? entry.value with
    | none => .error (.notLevel entry.value entry.after)
    | some level => (levels rest).map ((entry.key, level) :: ·)

end ScriptLint.ConfigText

namespace ScriptLint

inductive ConfigError where
  | text (fault : ConfigText.Fault)
  | unknownRule (key : String)
  | duplicateRule (name : String)

namespace ConfigError

def message : ConfigError → String
  | text fault => "Invalid configuration syntax: " ++ fault.message
  | unknownRule key => "Unknown rule: " ++ key
  | duplicateRule name => "Rule configured more than once: " ++ name

def ofNameError : Config.NameError → ConfigError
  | .unknown key => unknownRule key
  | .duplicate name => duplicateRule name

end ConfigError

namespace Config

/-- The configuration that a JSON text stands for, with a table for its entries. A value that is no level is
reported before a fault further on in the text, and both before the names are looked at. -/
def ofTextBy (table : List (String × Level) → List (String × Level)) (registry : Registry) (text : String) :
    Except ConfigError Config :=
  let reading := ConfigText.read text
  match ConfigText.levels reading.entries with
  | .error fault => .error (.text fault)
  | .ok entries =>
    match reading.outcome with
    | .error fault => .error (.text fault)
    | .ok _ => (ofEntries table registry entries).mapError ConfigError.ofNameError

def ofText (registry : Registry) (text : String) : Except ConfigError Config :=
  ofTextBy lastEntries registry text

end Config
end ScriptLint
