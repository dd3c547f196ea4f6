import ScriptLint.Lint.File
import ScriptLint.Text.Quoted

/-! Checking one rule against samples of code. A sample passes if the messages of the rule are the
expected ones, in order; for code that is expected to be fine there are none. -/

namespace ScriptLint

structure Sample where
  filename : String
  code : String
  expected : List String
  deriving DecidableEq, Repr

structure Tester where
  rule : String
  registry : Registry
  samples : List Sample

namespace Tester

def defaultFilename : String := "input.jsx"

inductive Misuse where
  | notRegistered (name : String)
  | nothingExpected (code : String)
  deriving DecidableEq, Repr

def Misuse.message : Misuse → String
  | notRegistered name => "rule `" ++ name ++ "` is not registered"
  | nothingExpected code => "invalid case " ++ Text.quoted code ++ " must expect at least one error"

def ofRule (registry : Registry) (name : String) : Except Misuse Tester :=
  match registry.get? name with
  | some rule => .ok ⟨rule.name, registry, []⟩
  | none => .error (.notRegistered name)

def valid (tester : Tester) (code : String) (filename : String := defaultFilename) : Tester :=
  { tester with samples := tester.samples ++ [⟨filename, code, []⟩] }

def invalid (tester : Tester) (code : String) (expected : List String)
    (filename : String := defaultFilename) : Except Misuse Tester :=
  if expected.isEmpty then .error (.nothingExpected code)
  else .ok { tester with samples := tester.samples ++ [⟨filename, code, expected⟩] }

inductive Failure where
  | notParsed (sample : Sample) (messages : List String)
  | other (sample : Sample) (found : List String)
  deriving DecidableEq, Repr

def Failure.message : Failure → String
  | notParsed sample messages =>
    "  " ++ sample.filename ++ " " ++ Text.quoted sample.code ++ ": does not parse: " ++
      "; ".intercalate messages
  | other sample found =>
    "  " ++ sample.filename ++ " " ++ Text.quoted sample.code ++ ": expected " ++
      Text.quotedList sample.expected ++ ", got " ++ Text.quotedList found

def config (tester : Tester) : Config := Config.none.withRule tester.rule .error

def check (tester : Tester) (sample : Sample) : Option Failure :=
  let dialect := Dialect.ofPath sample.filename
  match Program.ofText dialect sample.code with
  | .error issues => some (.notParsed sample (issues.map Syntax.Issue.message))
  | .ok program =>
    let report := tester.registry.run tester.config sample.code dialect program
    let found := report.findings.map Finding.message
    if found = sample.expected then none else some (.other sample found)

def failures (tester : Tester) : List Failure := tester.samples.filterMap tester.check

def run (tester : Tester) : Except String Unit :=
  match tester.failures with
  | [] => .ok ()
  | failures =>
    .error (toString failures.length ++ " of " ++ toString tester.samples.length ++
      " cases failed for `" ++ tester.rule ++ "`:\n" ++ "\n".intercalate (failures.map Failure.message))

end Tester
end ScriptLint
