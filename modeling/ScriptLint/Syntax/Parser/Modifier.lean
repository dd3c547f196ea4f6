import ScriptLint.Syntax.Parser.Name

/-! Modifiers: words in front of a member, a parameter or a declaration. They are read wherever a name
can follow them; what they stand in front of decides afterwards whether it takes them. -/

namespace ScriptLint.Syntax.Parse

def accessibility : List String := ["private", "protected", "public"]

def modifierWords : List String :=
  accessibility ++ ["abstract", "accessor", "async", "const", "declare", "default", "export", "in", "out",
    "override", "readonly", "static"]

def followsModifier (token : Token) : Bool :=
  isSimpleName token || token.kind = .mark .bracketOpen || token.kind = .mark .braceOpen ||
    token.kind = .mark .star || token.kind = .mark .ellipsis

def contextual (name : String) : Parse Bool := do
  if !(← atWord name) then return false
  if ← nextToken followsModifier then
    advance
    return true
  return false

def atModifier (constant : Bool) : Parse Bool := do
  match ← kind with
  | .word name =>
    if !modifierWords.contains name || (name = "const" && !constant) then return false
    nextToken fun token => (name = "static" || !token.newline) && followsModifier token
  | _ => return false

def laterModifiers : String → List String
  | "private" | "protected" | "public" =>
    accessibility ++ ["abstract", "accessor", "async", "override", "readonly", "static"]
  | "static" => ["accessor", "async", "override", "readonly"]
  | "override" => ["accessor", "async", "readonly"]
  | "abstract" => ["accessor", "override"]
  | "export" => ["abstract", "async", "declare"]
  | "in" => ["out"]
  | _ => []

def checkModifier (before : List String) (name : String) : Parse Unit := do
  if before.contains name || (laterModifiers name).any before.contains then record .misplaced

/-- Modifiers, up to the name that they belong to or the block of a class that is `static`. -/
def modifiers (constant : Bool) : Parse (List String) :=
  iterate (fun (found : List String) => do
    match ← kind with
    | .word name =>
      let block ← nextToken fun token => token.kind = .mark .braceOpen
      if name = "static" && (block || found.contains name) then return .inr found.reverse
      unless ← atModifier constant do return .inr found.reverse
      checkModifier found name
      advance
      return .inl (name :: found)
    | _ => return .inr found.reverse) []

def allow (allowed found : List String) : Parse Unit := do
  unless found.all allowed.contains do record .misplaced

end ScriptLint.Syntax.Parse
