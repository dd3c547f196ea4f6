import ScriptLint.Decimal.Notation

/-! JSON values and their compact text. -/

namespace ScriptLint.Json

inductive Number where
  | natural (value : UInt64)
  | negative (value : Int64)
  | real (value : Float)
  deriving BEq, Repr, Inhabited

/-- The members of an object are in the order of their keys, and no key occurs twice. -/
inductive Value where
  | null
  | boolean (value : Bool)
  | number (value : Number)
  | string (value : String)
  | array (items : List Value)
  | object (members : List (String × Value))
  deriving BEq, Repr, Inhabited

def insertMember {V : Type} (key : String) (value : V) : List (String × V) → List (String × V)
  | [] => [(key, value)]
  | (other, old) :: rest =>
    if key = other then (key, value) :: rest
    else if key < other then (key, value) :: (other, old) :: rest
    else (other, old) :: insertMember key value rest

namespace Number

def render : Number → String
  | natural value => toString value.toNat
  | negative value => toString value.toInt
  | real value => Decimal.plain.render value

end Number

def hexDigit (value : Nat) : Char := Nat.digitChar (value % 16)

def quotedChar (c : Char) : List Char :=
  if c = '"' then ['\\', '"']
  else if c = '\\' then ['\\', '\\']
  else if c = '\n' then ['\\', 'n']
  else if c = '\r' then ['\\', 'r']
  else if c = '\t' then ['\\', 't']
  else if c.toNat = 8 then ['\\', 'b']
  else if c.toNat = 12 then ['\\', 'f']
  else if c.toNat < 32 then ['\\', 'u', '0', '0', hexDigit (c.toNat / 16), hexDigit c.toNat]
  else [c]

def quote (text : String) : String := "\"" ++ String.ofList (text.toList.flatMap quotedChar) ++ "\""

namespace Value

mutual
def render : Value → String
  | null => "null"
  | boolean value => if value then "true" else "false"
  | number value => value.render
  | string value => quote value
  | array items => "[" ++ ",".intercalate (renderItems items) ++ "]"
  | object members => "\x7b" ++ ",".intercalate (renderMembers members) ++ "\x7d"

def renderItems : List Value → List String
  | [] => []
  | item :: rest => item.render :: renderItems rest

def renderMembers : List (String × Value) → List String
  | [] => []
  | (key, value) :: rest => (quote key ++ ":" ++ value.render) :: renderMembers rest
end

end Value
end ScriptLint.Json
