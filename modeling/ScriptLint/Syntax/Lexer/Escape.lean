import ScriptLint.Syntax.Issue
import ScriptLint.Syntax.Scan
import ScriptLint.Syntax.Lexer.Trivia

/-! Escapes in names, strings and templates. -/

namespace ScriptLint.Syntax.Lexer

def hexValue? (c : Char) : Option Nat :=
  if c.isDigit then some (c.toNat - 48)
  else if 'a' ≤ c ∧ c ≤ 'f' then some (c.toNat - 87)
  else if 'A' ≤ c ∧ c ≤ 'F' then some (c.toNat - 55)
  else none

def hexDigits : Nat → Nat → Scan → Option (Nat × Scan)
  | 0, value, scan => some (value, scan)
  | count + 1, value, scan =>
    match scan.rest with
    | [] => none
    | c :: _ =>
      match hexValue? c with
      | none => none
      | some digit => hexDigits count (value * 16 + digit) scan.next

def bracedHex (scan : Scan) : Option (Nat × Scan) :=
  let (digits, after) := scan.takeWhile (fun c => (hexValue? c).isSome)
  let value := digits.foldl (fun value c => value * 16 + (hexValue? c).getD 0) 0
  match digits, after.rest with
  | _ :: _, '}' :: _ => if value ≤ 0x10FFFF then some (value, after.next) else none
  | _, _ => none

def codePoint (scan : Scan) : Option (Nat × Scan) :=
  match scan.rest with
  | '{' :: _ => bracedHex scan.next
  | _ => hexDigits 4 0 scan

def isHighSurrogate (code : Nat) : Bool := 0xD800 ≤ code && code ≤ 0xDBFF

def isLowSurrogate (code : Nat) : Bool := 0xDC00 ≤ code && code ≤ 0xDFFF

/-- Half of a pair that stands alone, as the replacement character and its number. -/
def loneSurrogate (code : Nat) : List Char :=
  Char.ofNat 0xFFFD :: (Nat.toDigits 16 code)

def unicodeEscape (scan : Scan) : Option (List Char × Scan) :=
  match codePoint scan with
  | none => none
  | some (code, after) =>
    let lone := some (loneSurrogate code, after)
    if isHighSurrogate code then
      match after.past? ['\\', 'u'] with
      | none => lone
      | some second =>
        match hexDigits 4 0 second with
        | some (low, afterPair) =>
          if isLowSurrogate low then
            some ([Char.ofNat (0x10000 + (code - 0xD800) * 0x400 + (low - 0xDC00))], afterPair)
          else lone
        | none => lone
    else if isLowSurrogate code then lone
    else some ([Char.ofNat code], after)

def isOctal (c : Char) : Bool := '0' ≤ c && c ≤ '7'

def octal (scan : Scan) : Nat × Scan :=
  let digit (c : Char) := c.toNat - 48
  match scan.rest with
  | a :: b :: c :: _ =>
    if isOctal b then
      if isOctal c && digit a ≤ 3 then ((digit a * 8 + digit b) * 8 + digit c, scan.drop 3)
      else (digit a * 8 + digit b, scan.drop 2)
    else (digit a, scan.next)
  | a :: b :: _ => if isOctal b then (digit a * 8 + digit b, scan.drop 2) else (digit a, scan.next)
  | a :: _ => (digit a, scan.next)
  | [] => (0, scan)

def escape (template : Bool) (scan : Scan) : Option (List Char × Scan) :=
  match scan.rest with
  | [] => none
  | '\r' :: '\n' :: _ => some ([], scan.drop 2)
  | c :: rest =>
    if isLineBreak c then some ([], scan.next)
    else match c with
      | 'n' => some (['\n'], scan.next)
      | 't' => some (['\t'], scan.next)
      | 'r' => some (['\r'], scan.next)
      | 'b' => some ([Char.ofNat 8], scan.next)
      | 'v' => some ([Char.ofNat 11], scan.next)
      | 'f' => some ([Char.ofNat 12], scan.next)
      | 'x' => (hexDigits 2 0 scan.next).map fun (code, scan) => ([Char.ofNat code], scan)
      | 'u' => unicodeEscape scan.next
      | _ =>
        if c = '0' && !(rest.head?.any Char.isDigit) then some ([Char.ofNat 0], scan.next)
        -- templates have no octal escapes
        else if template && c.isDigit then none
        else if isOctal c then
          let (code, scan) := octal scan
          some ([Char.ofNat code], scan)
        else some ([c], scan.next)

end ScriptLint.Syntax.Lexer
