import ScriptLint.Lint.File

/-! Linting for a host that has no wider numbers than 32 bits and gets its errors as texts. -/

namespace ScriptLint.Host

structure Options where
  filename : Option String := none
  config : Option String := none

structure HostFinding where
  rule : String
  message : String
  help : Option String
  severity : String
  line : UInt32
  column : UInt32
  start : UInt32
  stop : UInt32
  deriving DecidableEq, Repr

def ofFileFinding (found : FileFinding) : HostFinding where
  rule := found.finding.rule
  message := found.finding.message
  help := found.finding.help
  severity := found.finding.severity.text
  line := found.position.line.toUInt32
  column := found.position.column.toUInt32
  start := found.finding.span.start.toUInt32
  stop := found.finding.span.stop.toUInt32

def defaultFilename : String := "input.tsx"

def lint (source : String) (options : Option Options) : Except String (List HostFinding) :=
  let options := options.getD {}
  let filename := options.filename.getD defaultFilename
  let outcome := match options.config with
    | some text => lintFileWith text filename source
    | none => lintFile .default filename source
  match outcome with
  | .ok found => .ok (found.map ofFileFinding)
  | .error error => .error error.message

end ScriptLint.Host
