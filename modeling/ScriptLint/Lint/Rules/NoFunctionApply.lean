import ScriptLint.Lint.Rule

/-! No call of a member `apply`. Reading the member is allowed. -/

namespace ScriptLint.NoFunctionApply

def find (site : CallSite) : Option Span :=
  if site.memberName? = some "apply" then some site.span else none

def rule : Rule where
  name := "no-function-apply"
  category := .restriction
  message := "Don't use 'apply'"
  docs := "Disallow `fn.apply(...)`; use spread arguments instead."
  visitors := [.call find]

def check (site : CallSite) : Option Finding :=
  (find site).map fun span => ⟨rule.name, span, rule.message, none, .warning⟩

end ScriptLint.NoFunctionApply
