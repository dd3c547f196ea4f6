import ScriptLint.Lint.Config
import ScriptLint.Lint.Context

/-! Running rules over a tree in one walk. The enabled rules are sorted by the kind of their visitors
beforehand; without any there is no walk. -/

namespace ScriptLint

structure Enabled (S : Type) where
  rule : Rule
  severity : Severity
  find : S → Option Span

structure Dispatch where
  calls : List (Enabled CallSite)
  elements : List (Enabled ElementSite)

namespace Dispatch

def empty : Dispatch := ⟨[], []⟩

def addVisitor (elements : Bool) (rule : Rule) (severity : Severity) (dispatch : Dispatch) :
    Visitor → Dispatch
  | .call find => { dispatch with calls := dispatch.calls ++ [⟨rule, severity, find⟩] }
  | .element find =>
    if elements then { dispatch with elements := dispatch.elements ++ [⟨rule, severity, find⟩] }
    else dispatch

def addRule (elements : Bool) (config : Config) (dispatch : Dispatch) (rule : Rule) : Dispatch :=
  match (config.level rule.name).severity? with
  | none => dispatch
  | some severity => rule.visitors.foldl (addVisitor elements rule severity) dispatch

def ofRegistry (registry : Registry) (config : Config) (dialect : Dialect) : Dispatch :=
  registry.rules.foldl (addRule dialect.elements config) empty

def isEmpty (dispatch : Dispatch) : Bool := dispatch.calls.isEmpty && dispatch.elements.isEmpty

def check {S : Type} (site : S) (enabled : List (Enabled S)) (context : Context) : Context :=
  enabled.foldl (fun context each =>
    match each.find site with
    | some span => context.report (each.rule.finding each.severity span)
    | none => context) context

def enter (dispatch : Dispatch) (node : Node) (context : Context) : Context :=
  match node.site? with
  | some (.call site) => check site dispatch.calls context
  | some (.element site) => check site dispatch.elements context
  | none => context

end Dispatch

structure Report where
  findings : List Finding
  deriving DecidableEq, Repr

namespace Report

def errors (report : Report) : List Finding := report.findings.filter (·.severity = .error)

def warnings (report : Report) : List Finding := report.findings.filter (·.severity = .warning)

def hasErrors (report : Report) : Bool := report.findings.any (·.severity = .error)

def hasWarnings (report : Report) : Bool := report.findings.any (·.severity = .warning)

def errorCount (report : Report) : Nat := report.errors.length

def warningCount (report : Report) : Nat := report.warnings.length

end Report

namespace Registry

def run (registry : Registry) (config : Config) (source : String) (dialect : Dialect)
    (program : Program) : Report :=
  let dispatch := Dispatch.ofRegistry registry config dialect
  if dispatch.isEmpty then ⟨[]⟩
  else ⟨(program.walk dispatch.enter ⟨source, dialect, []⟩).findings⟩

end Registry

namespace Program

def lintWith (config : Config) (source : String) (dialect : Dialect) (program : Program) : Report :=
  Registry.builtin.run config source dialect program

/-- Runs all builtin rules over a program as one with elements. -/
def lint (source : String) (program : Program) : Report :=
  program.lintWith .default source .untyped

end Program
end ScriptLint
