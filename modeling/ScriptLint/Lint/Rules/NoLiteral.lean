import ScriptLint.Lint.Rule

/-! No literal as the explicit context of `apply`. A context passed by reference is left alone. -/

namespace ScriptLint.NoLiteral

def find (site : CallSite) : Option Span :=
  if site.memberName? = some "apply" then
    site.firstArgument?.bind fun argument =>
      if argument.isLiteralValue then some argument.span else none
  else none

def rule : Rule where
  name := "no-literal"
  category := .style
  message := "Don't pass a literal as the context of 'apply'"
  docs := "Disallow literal values as the context argument of `apply`."
  visitors := [.call find]

def check (site : CallSite) : Option Finding :=
  (find site).map fun span => ⟨rule.name, span, rule.message, none, .warning⟩

end ScriptLint.NoLiteral
