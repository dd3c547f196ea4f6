import ScriptLint.Json.Cursor

/-! Reading numbers. A significand that outgrows 64 bits drops its further digits. -/

namespace ScriptLint.Json.Numeral

def largest : Nat := UInt64.size - 1

def digit? (c : Char) : Option Nat := if c.isDigit then some (c.toNat - 48) else none

def power (exponent : Nat) : Float := Float.ofScientific 1 false exponent

/-- `significand * 10 ^ exponent` by one rounded multiplication or division, after divisions by
`10 ^ 308` for exponents below `-308`. `none` stands for too large a number. -/
def scale (significand : Nat) (exponent : Int) : Option Float :=
  go (significand.toUInt64.toFloat) exponent 10
where
  go (value : Float) (exponent : Int) : Nat → Option Float
    | 0 => some value
    | fuel + 1 =>
      if exponent.natAbs ≤ 308 then
        if 0 ≤ exponent then
          let scaled := value * power exponent.natAbs
          if scaled.isInf then none else some scaled
        else some (value / power exponent.natAbs)
      else if value == 0 then some value
      else if 0 ≤ exponent then none
      else go (value / power 308) (exponent + 308) fuel

def signed (positive : Bool) (value : Float) : Float := if positive then value else -value

def finish (positive : Bool) (significand : Nat) (exponent : Int) (cursor : Cursor) : Except Fault (Number × Cursor) :=
  match scale significand exponent with
  | some value => .ok (.real (signed positive value), cursor)
  | none => cursor.behind .numberRange

def skipDigits (cursor : Cursor) : Cursor := cursor.skipWhile Char.isDigit

def largestExponent : Nat := Nat.pow 2 31 - 1

def exponentDigits : List Char → Place → Nat → Option Nat × Cursor
  | [], place, value => (some value, ⟨place, []⟩)
  | c :: rest, place, value =>
    match digit? c with
    | none => (some value, ⟨place, c :: rest⟩)
    | some digit =>
      let value := value * 10 + digit
      if largestExponent < value then (none, ⟨place.past c, rest⟩)
      else exponentDigits rest (place.past c) value

def exponent (positive : Bool) (significand : Nat) (offset : Int) (cursor : Cursor) : Except Fault (Number × Cursor) :=
  let cursor := cursor.next
  let (up, cursor) := match cursor.rest with
    | '+' :: _ => (true, cursor.next)
    | '-' :: _ => (false, cursor.next)
    | _ => (true, cursor)
  match cursor.rest with
  | [] => cursor.behind .endInValue
  | c :: rest =>
    match digit? c with
    | none => cursor.ahead .badNumber
    | some first =>
      match exponentDigits rest (cursor.place.past c) first with
      | (some value, cursor) =>
        finish positive significand (if up then offset + value else offset - value) cursor
      | (none, cursor) =>
        -- a huge exponent of zero, or a huge negative one, gives zero
        if significand ≠ 0 ∧ up then cursor.behind .numberRange
        else .ok (.real (signed positive 0.0), skipDigits cursor)

def significandDigits : List Char → Place → Nat → Nat → (Nat × Nat × Bool) × Cursor
  | [], place, value, count => ((value, count, false), ⟨place, []⟩)
  | c :: rest, place, value, count =>
    match digit? c with
    | none => ((value, count, false), ⟨place, c :: rest⟩)
    | some digit =>
      if largest < value * 10 + digit then ((value, count, true), ⟨place, c :: rest⟩)
      else significandDigits rest (place.past c) (value * 10 + digit) (count + 1)

def startsExponent (cursor : Cursor) : Bool :=
  match cursor.rest with
  | 'e' :: _ | 'E' :: _ => true
  | _ => false

def exponentOrEnd (positive : Bool) (significand : Nat) (offset : Int) (cursor : Cursor) : Except Fault (Number × Cursor) :=
  if startsExponent cursor then exponent positive significand offset cursor
  else finish positive significand offset cursor

def decimals (positive : Bool) (significand : Nat) (offset : Int) (cursor : Cursor) : Except Fault (Number × Cursor) :=
  let cursor := cursor.next
  let ((value, count, surplus), cursor) := significandDigits cursor.rest cursor.place significand 0
  if surplus then exponentOrEnd positive value (offset - count) (skipDigits cursor)
  else if count = 0 then
    match cursor.rest with
    | [] => cursor.ahead .endInValue
    | _ => cursor.ahead .badNumber
  else exponentOrEnd positive value (offset - count) cursor

/-- After the whole part. Minus zero and what 64 bits do not hold become binary64. -/
def afterWhole (positive : Bool) (significand : Nat) (cursor : Cursor) : Except Fault (Number × Cursor) :=
  match cursor.rest with
  | '.' :: _ => decimals positive significand 0 cursor
  | 'e' :: _ | 'E' :: _ => exponent positive significand 0 cursor
  | _ =>
    if positive then .ok (.natural significand.toUInt64, cursor)
    else if 0 < significand ∧ significand ≤ Nat.pow 2 63 then
      .ok (.negative (Int64.ofInt (-significand)), cursor)
    else .ok (.real (-(significand.toUInt64.toFloat)), cursor)

def read (positive : Bool) (cursor : Cursor) : Except Fault (Number × Cursor) :=
  match cursor.rest with
  | [] => cursor.behind .endInValue
  | '0' :: _ =>
    let after := cursor.next
    match after.rest with
    | c :: _ => if c.isDigit then after.ahead .badNumber else afterWhole positive 0 after
    | [] => afterWhole positive 0 after
  | c :: _ =>
    if c.isDigit then
      let ((value, _, surplus), after) := significandDigits cursor.rest cursor.place 0 0
      if surplus then
        let stop := skipDigits after
        let dropped := after.rest.length - stop.rest.length
        match stop.rest with
        | '.' :: _ => decimals positive value dropped stop
        | _ => exponentOrEnd positive value dropped stop
      else afterWhole positive value after
    else cursor.ahead .badNumber

def skipExponent (cursor : Cursor) : Except Fault Cursor :=
  let cursor := cursor.next
  let cursor := match cursor.rest with
    | '+' :: _ | '-' :: _ => cursor.next
    | _ => cursor
  match cursor.rest with
  | c :: _ => if c.isDigit then .ok (skipDigits cursor) else cursor.ahead .badNumber
  | [] => cursor.behind .badNumber

def skipDecimals (cursor : Cursor) : Except Fault Cursor :=
  let start := cursor.next
  let stop := skipDigits start
  if start.rest.length = stop.rest.length then stop.ahead .badNumber
  else if startsExponent stop then skipExponent stop else .ok stop

def skip (cursor : Cursor) : Except Fault Cursor :=
  let afterSkippedWhole (cursor : Cursor) : Except Fault Cursor :=
    match cursor.rest with
    | '.' :: _ => skipDecimals cursor
    | 'e' :: _ | 'E' :: _ => skipExponent cursor
    | _ => .ok cursor
  match cursor.rest with
  | '0' :: _ =>
    let after := cursor.next
    match after.rest with
    | c :: _ => if c.isDigit then after.ahead .badNumber else afterSkippedWhole after
    | [] => .ok after
  | c :: _ => if c.isDigit then afterSkippedWhole (skipDigits cursor) else cursor.ahead .badNumber
  | [] => cursor.behind .badNumber

end ScriptLint.Json.Numeral
