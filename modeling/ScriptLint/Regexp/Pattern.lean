import ScriptLint.Regexp.CharacterClass

/-! Patterns: alternatives of sequences of repeated atoms. -/

namespace ScriptLint.Regexp

structure Names where
  groups : List (List Nat) := []
  references : List (List Nat) := []

namespace Names

/-- Two parts of which one or the other matches may use the same names. -/
def either (first second : Names) : Names :=
  ⟨first.groups ++ second.groups, first.references ++ second.references⟩

/-- Two parts that match one after the other may not. -/
def both? (first second : Names) : Option Names :=
  if first.groups.any second.groups.contains then none else some (first.either second)

end Names

namespace Reader

def bounds : Reader Unit := do
  expect "\x7b"
  let low ← number
  if ← eat "," then
    if ← eat "\x7d" then return
    let high ← number
    expect "\x7d"
    if high < low then failure
  else expect "\x7d"

def looseBounds : Reader Unit := do
  expect "\x7b"
  let _ ← number
  if ← eat "," then
    let _ ← attempt number
  expect "\x7d"

def quantifier : Reader Bool := do
  let found ← do
    if (← eatIf (isOneOf "*+?")).isSome then pure true
    else if ← at? "\x7b" then
      if (← read).unicode then do
        bounds
        pure true
      else do
        let start ← get
        let looks := (← attempt looseBounds).isSome
        if looks then
          set start
          bounds
        pure looks
    else pure false
  if found then let _ ← eat "?"
  return found

def modifierLetters : Nat → List Nat → Reader (List Nat)
  | 0, found => return found
  | fuel + 1, found => do
    match ← eatIf (isOneOf "ims") with
    | some unit => if found.contains unit then failure else modifierLetters fuel (unit :: found)
    | none => return found

def modifiers : Reader Unit := do
  let added ← modifierLetters 4 []
  if ← eat "-" then
    let removed ← modifierLetters 4 []
    if removed.any added.contains then failure
    if added.isEmpty && removed.isEmpty then failure
  expect ":"

def atomEscape : Reader Names := do
  let mode ← read
  if mode.named then
    if ← eat "k" then return { references := [← groupName] }
  let number ← attempt do
    match ← peek with
    | some unit => if isDigit unit && unit != 0x30 then number else failure
    | none => failure
  match number with
  | some value => if value ≤ mode.groups then return {} else failure
  | none =>
    match ← attempt classEscape with
    | some _ => return {}
    | none =>
      let _ ← characterEscape
      return {}

mutual
def disjunction : Nat → Reader Names
  | 0 => failure
  | fuel + 1 => do
    let first ← alternative fuel {}
    if ← eat "|" then return first.either (← disjunction fuel)
    return first

def alternative : Nat → Names → Reader Names
  | 0, _ => failure
  | fuel + 1, found => do
    match ← peek with
    | none => return found
    | some unit =>
      if unit = 0x7C || unit = 0x29 then return found
      let next ← term fuel
      match found.both? next with
      | some both => alternative fuel both
      | none => failure

def term : Nat → Reader Names
  | 0 => failure
  | fuel + 1 => do
    if ← eatAny ["^", "$", "\\b", "\\B"] then return {}
    if ← eatAny ["(?<=", "(?<!"] then return ← groupRest fuel
    if ← eatAny ["(?=", "(?!"] then
      let names ← groupRest fuel
      if !(← read).unicode then let _ ← quantifier
      return names
    let names ← atom fuel
    let _ ← quantifier
    return names

def groupRest : Nat → Reader Names
  | 0 => failure
  | fuel + 1 => do
    let names ← disjunction fuel
    expect ")"
    return names

def atom : Nat → Reader Names
  | 0 => failure
  | fuel + 1 => do
    let unicode := (← read).unicode
    if ← eat "." then return {}
    if ← eat "[" then
      characterClass
      return {}
    if ← eat "(?<" then
      modify (0x3C :: ·)
      let name ← groupName
      let names ← groupRest fuel
      match Names.both? { groups := [name] } names with
      | some both => return both
      | none => failure
    if ← eat "(?" then
      modifiers
      return ← groupRest fuel
    if ← eat "(" then return ← groupRest fuel
    if ← eat "\\" then
      match ← attempt atomEscape with
      | some names => return names
      | none =>
        if unicode then failure
        if (← attempt characterEscape).isSome then return {}
        if ← at? "c" then return {}
        failure
    if !unicode then
      if (← attempt looseBounds).isSome then failure
    let kind (unit : Nat) : Bool :=
      if unicode then !isOneOf "^$\\.*+?()[]\x7b\x7d|" unit else !isOneOf "^$\\.*+?()[|" unit
    match ← eatIf kind with
    | some _ => return {}
    | none => failure
end

end Reader
end ScriptLint.Regexp
