import ScriptLint.Syntax.Lexer.Escape
import ScriptLint.Text.Identifier

/-! Numbers. An underscore may stand between two digits, and neither a name nor a digit may follow. -/

namespace ScriptLint.Syntax.Lexer

inductive Numeral where
  | number (digits : String)
  | bigint (digits : String)

def separated (digit : Char → Bool) (scan : Scan) : Option (List Char × Scan) :=
  let (found, after) := scan.takeWhile (fun c => digit c || c = '_')
  if sound true found then some (found.filter (· != '_'), after) else none
where
  sound : Bool → List Char → Bool
    | afterUnderscore, [] => !afterUnderscore
    | afterUnderscore, c :: rest => if c = '_' then !afterUnderscore && sound true rest else sound false rest

def endNumber (number : Numeral) (scan : Scan) : Except Issue (Numeral × Scan) :=
  match scan.rest with
  | c :: _ =>
    if c.isDigit || Text.Identifier.isStart c || c = '\\' then .error .invalidNumber else .ok (number, scan)
  | [] => .ok (number, scan)

def wholeNumber (digits : List Char) (scan : Scan) : Except Issue (Numeral × Scan) :=
  let text := String.ofList digits
  match scan.rest with
  | 'n' :: _ => endNumber (.bigint text) scan.next
  | _ => endNumber (.number text) scan

def isBinary (c : Char) : Bool := c = '0' || c = '1'

def based (mark : Char) (digit : Char → Bool) (scan : Scan) : Except Issue (Numeral × Scan) :=
  match separated digit (scan.drop 2) with
  | some (digits, after) => wholeNumber ('0' :: mark :: digits) after
  | none => .error .invalidNumber

def exponentPart (digits : List Char) (scan : Scan) : Except Issue (Numeral × Scan) :=
  match scan.rest with
  | e :: sign :: _ =>
    if e = 'e' || e = 'E' then
      let (start, signed) :=
        if sign = '+' || sign = '-' then (scan.drop 2, [e, sign]) else (scan.next, [e])
      match separated Char.isDigit start with
      | some (more, after) => endNumber (.number (String.ofList (digits ++ signed ++ more))) after
      | none => .error .invalidNumber
    else endNumber (.number (String.ofList digits)) scan
  | _ => endNumber (.number (String.ofList digits)) scan

def fractionPart (digits : List Char) (scan : Scan) : Except Issue (Numeral × Scan) :=
  match scan.rest with
  | '.' :: c :: _ =>
    if c.isDigit || c = '_' then
      match separated Char.isDigit scan.next with
      | some (more, after) => exponentPart (digits ++ '.' :: more) after
      | none => .error .invalidNumber
    else exponentPart (digits ++ ['.']) scan.next
  | '.' :: _ => exponentPart (digits ++ ['.']) scan.next
  | _ => exponentPart digits scan

/-- A number that starts with a zero and another digit: octal, if all of its digits are, and decimal
otherwise. -/
def legacyNumber (scan : Scan) : Except Issue (Numeral × Scan) :=
  let (digits, after) := scan.takeWhile Char.isDigit
  if digits.all isOctal then endNumber (.number (String.ofList digits)) after
  else fractionPart digits after

def numeral (scan : Scan) : Except Issue (Numeral × Scan) :=
  match scan.rest with
  | '0' :: c :: _ =>
    if c = 'x' || c = 'X' then based c (fun d => (hexValue? d).isSome) scan
    else if c = 'o' || c = 'O' then based c isOctal scan
    else if c = 'b' || c = 'B' then based c isBinary scan
    else if c.isDigit then legacyNumber scan
    else if c = '_' then .error .invalidNumber
    else if c = 'n' then wholeNumber ['0'] scan.next
    else fractionPart ['0'] scan.next
  | '.' :: _ => fractionPart [] scan
  | _ =>
    match separated Char.isDigit scan with
    | none => .error .invalidNumber
    | some (digits, after) =>
      match after.rest with
      | 'n' :: _ => wholeNumber digits after
      | _ => fractionPart digits after

end ScriptLint.Syntax.Lexer
