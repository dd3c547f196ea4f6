import ScriptLint.Lint.ConfigText
import ScriptLint.Lint.Runner
import ScriptLint.Syntax.Program

/-! Linting one file. A file that cannot be parsed is not linted. -/

namespace ScriptLint

inductive LintError where
  | config (error : ConfigError)
  | parse (filename : String) (messages : List String)

def LintError.message : LintError → String
  | config error => "Configuration error: " ++ error.message
  | parse filename messages => "Parse error in " ++ filename ++ ": " ++ "; ".intercalate messages

def Registry.lintFile (registry : Registry) (config : Config) (filename source : String) :
    Except LintError (List FileFinding) :=
  let dialect := Dialect.ofPath filename
  match Program.ofText dialect source with
  | .error issues => .error (.parse filename (issues.map Syntax.Issue.message))
  | .ok program =>
    .ok ((registry.run config source dialect program).findings.map (·.inFile filename source))

def Registry.lintFileWith (registry : Registry) (configText : String) (filename source : String) :
    Except LintError (List FileFinding) :=
  match Config.ofText registry configText with
  | .error error => .error (.config error)
  | .ok config => registry.lintFile config filename source

def lintFile (config : Config) (filename source : String) : Except LintError (List FileFinding) :=
  Registry.builtin.lintFile config filename source

def lintFileWith (configText filename source : String) : Except LintError (List FileFinding) :=
  Registry.builtin.lintFileWith configText filename source

end ScriptLint
