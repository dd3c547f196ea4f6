import ScriptLint.Regexp.Escape

/-! Sets of characters in brackets. -/

namespace ScriptLint.Regexp.Reader

abbrev Item := Option Nat

def itemEscape : Reader Item := do
  let mode ← read
  if ← eat "b" then return some 8
  if mode.unicode then
    if ← eat "-" then return some 0x2D
  if !mode.unicode then
    if let some unit ← attempt (controlLetter fun unit => isDigit unit || unit = 0x5F) then return some unit
  if let some _ ← attempt classEscape then return none
  some <$> characterEscape

def item : Reader Item := do
  if ← eat "\\" then
    match ← attempt itemEscape with
    | some found => return found
    | none =>
      if !(← read).unicode && (← at? "c") then return some 0x5C
      failure
  some <$> do
    match ← eatIf (· != 0x5D) with
    | some unit => return unit
    | none => failure

/-- The items up to the closing bracket. The ends of a range are in order, and if a set is at one of them
the hyphen stands for itself, where that is allowed. -/
def items : Nat → Reader Unit
  | 0 => failure
  | fuel + 1 => do
    if ← eat "]" then return
    let first ← item
    let range ← attempt do
      expect "-"
      if ← at? "]" then failure
    match range with
    | none => items fuel
    | some () =>
      let last ← item
      match first, last with
      | some first, some last => if last < first then failure
      | _, _ => if (← read).unicode then failure
      items fuel

def isDouble (unit : Nat) : Bool := isOneOf "&!#$%*+,.:;<=>?@^`~" unit

def setCharacter : Reader Nat := do
  match ← get with
  | first :: second :: _ => if first = second && isDouble first then failure
  | _ => pure ()
  if ← eat "\\" then
    if ← eat "b" then return 8
    match ← attempt characterEscape with
    | some unit => return unit
    | none =>
      match ← eatIf (isOneOf "&-!#%,:;<=>@`~") with
      | some unit => return unit
      | none => failure
  match ← eatIf fun unit => !isOneOf "()[]\x7b\x7d/-\\|" unit with
  | some unit => return unit
  | none => failure

def stringRest : Nat → Nat → Reader Nat
  | 0, _ => failure
  | fuel + 1, count => do
    if (← at? "|") || (← at? "\x7d") then return count
    let _ ← setCharacter
    stringRest fuel (count + 1)

def strings : Nat → Bool → Reader SetInfo
  | 0, _ => failure
  | fuel + 1, found => do
    let count ← stringRest ((← get).length + 1) 0
    let found := found || count != 1
    if ← eat "|" then strings fuel found
    else
      expect "\x7d"
      return { strings := found }

structure Operand where
  info : SetInfo
  character : Item := none

inductive Joint where
  | union | intersection | subtraction
  deriving DecidableEq

def Joint.text : Joint → String
  | union => ""
  | intersection => "&&"
  | subtraction => "--"

mutual
def operand : Nat → Reader Operand
  | 0 => failure
  | fuel + 1 => do
    if ← eat "[" then
      let info ← wholeSet fuel
      return { info }
    if ← eat "\\q\x7b" then
      let info ← strings ((← get).length + 1) false
      return { info }
    let escaped ← attempt do
      expect "\\"
      classEscape
    match escaped with
    | some info => return { info }
    | none => return { info := {}, character := some (← setCharacter) }

def union : Nat → Operand → SetInfo → Reader SetInfo
  | 0, _, _ => failure
  | fuel + 1, first, info => do
    let info : SetInfo := { strings := info.strings || first.info.strings }
    if (← at? "-") && !(← at? "--") then
      skip 1
      match first.character, (← operand fuel).character with
      | some low, some high => if high < low then failure
      | _, _ => failure
    if ← eat "]" then return info
    if (← at? "--") || (← at? "&&") then failure
    let next ← operand fuel
    union fuel next info

def joined : Nat → Joint → SetInfo → Reader SetInfo
  | 0, _, _ => failure
  | fuel + 1, joint, info => do
    if ← eat "]" then return info
    expect joint.text
    if joint = .intersection && (← at? "&") then failure
    let next ← operand fuel
    let strings :=
      if joint = .intersection then info.strings && next.info.strings else info.strings
    joined fuel joint { strings }

def wholeSet : Nat → Reader SetInfo
  | 0 => failure
  | fuel + 1 => do
    let negated ← eat "^"
    if ← eat "]" then return {}
    let first ← operand fuel
    let info ←
      if ← at? "&&" then joined fuel .intersection first.info
      else if ← at? "--" then joined fuel .subtraction first.info
      else union fuel first {}
    if negated && info.strings then failure
    return if negated then {} else info
end

def characterClass : Reader Unit := do
  let fuel := (← get).length + 1
  if (← read).sets then
    let _ ← wholeSet (4 * fuel)
  else
    let _ ← eat "^"
    items fuel

end ScriptLint.Regexp.Reader
