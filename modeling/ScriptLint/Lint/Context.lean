import ScriptLint.Lint.Finding
import ScriptLint.Syntax.Dialect

/-! What is known while a file is being linted: its text, its dialect and the findings so far. -/

namespace ScriptLint

structure Context where
  source : String
  dialect : Dialect
  findings : List Finding := []
  deriving Repr

namespace Context

def report (context : Context) (finding : Finding) : Context :=
  { context with findings := context.findings ++ [finding] }

def spanText (context : Context) (span : Span) : String :=
  String.ofList ((Text.slice? span context.source.toList).getD [])

end Context
end ScriptLint
