import ScriptLint.Regexp.Property
import ScriptLint.Regexp.Reader
import ScriptLint.Text.Identifier

/-! Escapes in patterns. -/

namespace ScriptLint.Regexp.Reader

/-- A set of characters, and whether sequences of characters may be in it. -/
structure SetInfo where
  strings : Bool := false

def isPropertyLetter (unit : Nat) : Bool := isLetter unit || isDigit unit || unit = 0x5F

def propertyWord : Reader String := do
  let found := (← get).takeWhile isPropertyLetter
  skip found.length
  return textOf found

def property (negated : Bool) : Reader SetInfo := do
  expect "\x7b"
  let name ← propertyWord
  if ← eat "=" then
    let value ← propertyWord
    expect "\x7d"
    unless Property.hasValue name value do failure
    return {}
  expect "\x7d"
  if Property.isLone name then return {}
  unless (← read).sets && !negated && Property.ofStrings.contains name do failure
  return { strings := true }

def classEscape : Reader SetInfo := do
  match ← eatIf (isOneOf "dDsSwW") with
  | some _ => return {}
  | none =>
    unless (← read).unicode do failure
    if ← eat "p" then property false
    else
      expect "P"
      property true

def controlEscape : Reader Nat := do
  match ← eatIf (isOneOf "fnrtv") with
  | some 0x66 => return 12
  | some 0x6E => return 10
  | some 0x72 => return 13
  | some 0x74 => return 9
  | some _ => return 11
  | none => failure

def controlLetter (kind : Nat → Bool) : Reader Nat := do
  expect "c"
  match ← eatIf kind with
  | some unit => return unit % 32
  | none => failure

def nullEscape : Reader Nat := do
  expect "0"
  match ← peek with
  | some unit => if isDigit unit then failure else return 0
  | none => return 0

def isOctal (unit : Nat) : Bool := 0x30 ≤ unit && unit ≤ 0x37

def octalEscape : Reader Nat := do
  match ← eatIf isOctal with
  | none => failure
  | some first =>
    let first := first - 0x30
    match ← eatIf isOctal with
    | none => return first
    | some second =>
      let both := first * 8 + (second - 0x30)
      if first > 3 then return both
      match ← eatIf isOctal with
      | none => return both
      | some third => return both * 8 + (third - 0x30)

def identityEscape : Reader Nat := do
  let mode ← read
  let kind (unit : Nat) : Bool :=
    if mode.unicode then isOneOf "^$\\.*+?()[]\x7b\x7d|/" unit
    else unit != 0x63 && !(mode.named && unit = 0x6B)
  match ← eatIf kind with
  | some unit => return unit
  | none => failure

def characterEscape : Reader Nat := do
  let mode ← read
  controlEscape <|> controlLetter isLetter <|> nullEscape <|> (do expect "x"; hex 2)
    <|> (do expect "u"; unicodeEscape mode.unicode)
    <|> (if mode.unicode then failure else octalEscape) <|> identityEscape

def isPart (first : Bool) (unit : Nat) : Bool :=
  let c := Char.ofNat unit
  if first then Text.Identifier.isStart c else Text.Identifier.isPart c

def nameUnit (first : Bool) : Reader Nat := do
  let found ←
    if ← eat "\\" then do
      expect "u"
      unicodeEscape true
    else do
      match ← get with
      | high :: low :: rest =>
        if isHigh high && isLow low then
          set rest
          pure (joinPair high low)
        else
          skip 1
          pure high
      | [unit] =>
        skip 1
        pure unit
      | [] => failure
  if isPart first found then return found else failure

def nameRest : Nat → List Nat → Reader (List Nat)
  | 0, _ => failure
  | fuel + 1, reversed => do
    if ← eat ">" then return reversed.reverse
    nameRest fuel ((← nameUnit false) :: reversed)

def groupName : Reader (List Nat) := do
  expect "<"
  let first ← nameUnit true
  nameRest ((← get).length + 1) [first]

end ScriptLint.Regexp.Reader
