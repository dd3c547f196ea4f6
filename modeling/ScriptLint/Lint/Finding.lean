import ScriptLint.Lint.Level
import ScriptLint.Text.Position

/-! What a rule has to say about a stretch of source text. -/

namespace ScriptLint

structure Finding where
  rule : String
  span : Span
  message : String
  help : Option String := none
  severity : Severity := .warning
  deriving DecidableEq, Repr

namespace Finding

def withHelp (finding : Finding) (help : String) : Finding := { finding with help := some help }

def withSeverity (finding : Finding) (severity : Severity) : Finding := { finding with severity }

end Finding

structure FileFinding where
  filename : String
  finding : Finding
  position : Position
  deriving DecidableEq, Repr

def Finding.inFile (filename source : String) (finding : Finding) : FileFinding :=
  ⟨filename, finding, Position.ofOffset source finding.span.start⟩

end ScriptLint
