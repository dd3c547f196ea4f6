/-! Reading patterns of regular expressions. A pattern is a list of code points, or of 16-bit units where
it is not about code points. -/

namespace ScriptLint.Regexp

structure Mode where
  -- the pattern is about code points, and nothing may be escaped in vain
  unicode : Bool
  -- brackets hold sets with operators
  sets : Bool
  named : Bool
  groups : Nat

abbrev Reader := ReaderT Mode (StateT (List Nat) Option)

/-- The units of a character where a pattern is not about code points. -/
def units (c : Char) : List Nat :=
  let code := c.toNat
  if code < 0x10000 then [code]
  else [0xD800 + (code - 0x10000) / 0x400, 0xDC00 + (code - 0x10000) % 0x400]

namespace Reader

def peek : Reader (Option Nat) := return (← get).head?

def skip (count : Nat) : Reader Unit := modify (List.drop count)

def at? (text : String) : Reader Bool := return (text.toList.map Char.toNat).isPrefixOf (← get)

def eat (text : String) : Reader Bool := do
  if ← at? text then
    skip text.length
    return true
  return false

def eatAny : List String → Reader Bool
  | [] => return false
  | text :: rest => do
    if ← eat text then return true
    eatAny rest

def expect (text : String) : Reader Unit := do
  unless ← eat text do failure

def eatIf (kind : Nat → Bool) : Reader (Option Nat) := do
  match ← peek with
  | some unit =>
    if kind unit then
      skip 1
      return some unit
    return none
  | none => return none

def attempt {A : Type} (step : Reader A) : Reader (Option A) :=
  (some <$> step) <|> pure none

def isDigit (unit : Nat) : Bool := 0x30 ≤ unit && unit ≤ 0x39

def isLetter (unit : Nat) : Bool := (0x41 ≤ unit && unit ≤ 0x5A) || (0x61 ≤ unit && unit ≤ 0x7A)

def isOneOf (text : String) (unit : Nat) : Bool := text.toList.any fun c => c.toNat = unit

def hexValue? (unit : Nat) : Option Nat :=
  if isDigit unit then some (unit - 0x30)
  else if 0x61 ≤ unit && unit ≤ 0x66 then some (unit - 0x57)
  else if 0x41 ≤ unit && unit ≤ 0x46 then some (unit - 0x37)
  else none

def number : Reader Nat := do
  let digits := (← get).takeWhile isDigit
  if digits.isEmpty then failure
  skip digits.length
  return digits.foldl (fun value digit => value * 10 + (digit - 0x30)) 0

def hex (count : Nat) : Reader Nat := do
  let digits := (← get).take count
  let values := digits.filterMap hexValue?
  if values.length != count then failure
  skip count
  return values.foldl (fun value digit => value * 16 + digit) 0

def bracedHex : Reader Nat := do
  expect "\x7b"
  let digits := (← get).takeWhile fun unit => (hexValue? unit).isSome
  if digits.isEmpty then failure
  skip digits.length
  expect "\x7d"
  let value := (digits.filterMap hexValue?).foldl (fun value digit => value * 16 + digit) 0
  if 0x10FFFF < value then failure
  return value

def isHigh (unit : Nat) : Bool := 0xD800 ≤ unit && unit ≤ 0xDBFF

def isLow (unit : Nat) : Bool := 0xDC00 ≤ unit && unit ≤ 0xDFFF

def joinPair (high low : Nat) : Nat := 0x10000 + (high - 0xD800) * 0x400 + (low - 0xDC00)

def unicodeEscape (unicode : Bool) : Reader Nat := do
  if unicode && (← at? "\x7b") then return ← bracedHex
  let high ← hex 4
  if !unicode || !isHigh high then return high
  let low ← attempt do
    expect "\\u"
    let low ← hex 4
    if !isLow low then failure
    return low
  return (low.map (joinPair high)).getD high

def textOf (units : List Nat) : String := String.ofList (units.map Char.ofNat)

end Reader
end ScriptLint.Regexp
