import ScriptLint.Lint.Rule

/-! No `<button>` written like an HTML tag. Components of any name are allowed. -/

namespace ScriptLint.NoButton

def find (site : ElementSite) : Option Span :=
  if site.intrinsicName? = some "button" then some site.span else none

def rule : Rule where
  name := "no-jsx-button"
  category := .restriction
  message := "Don't use <button>"
  docs := "Disallow the intrinsic `<button>` element."
  visitors := [.element find]

def check (site : ElementSite) : Option Finding :=
  (find site).map fun span => ⟨rule.name, span, rule.message, none, .warning⟩

end ScriptLint.NoButton
