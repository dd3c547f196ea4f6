import ScriptLint.Syntax.Parser.Grammar

/-! Templates: stretches of text with something else in braces between them. -/

namespace ScriptLint.Syntax.Parse

/-- Reads the brace that ends a substitution again, together with the text behind it. -/
def continueTemplate : Parse Unit := do
  unless ← atMark .braceClose do fail (.expected "\x7d" (← kind).text)
  let state ← get
  match Lexer.template state.token.start with
  | .ok (kind, ahead) =>
    set { state with token := { state.token with kind, stop := ahead.offset }, ahead }
  | .error issue => throw issue

def templateParts (item : Parse Node) : Parse (List Quasi × List Node) :=
  iterate (fun ((quasis, items) : List Quasi × List Node) => do
    match ← kind with
    | .template quasi closes =>
      advance
      let quasis := quasi :: quasis
      if closes then return .inr (quasis.reverse, items.reverse)
      let items := (← item) :: items
      continueTemplate
      return .inl (quasis, items)
    | _ => unexpected) ([], [])

def atTemplate : Parse Bool := do
  match ← kind with
  | .template _ _ => return true
  | _ => return false

def template (g : Grammar) (tagged : Bool) : Parse Node := do
  let start ← start
  let (quasis, items) ← templateParts g.inner
  if !tagged && quasis.any (·.cooked.isNone) then record .invalidEscape
  return .template (← spanFrom start) quasis items

end ScriptLint.Syntax.Parse
