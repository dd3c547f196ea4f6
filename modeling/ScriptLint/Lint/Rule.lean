import ScriptLint.Lint.Site
import ScriptLint.Lint.Finding

/-! Rules: what they are called and say, and how they look at sites. -/

namespace ScriptLint

inductive SiteKind where
  | call | element
  deriving DecidableEq, Repr

inductive Visitor where
  | call (find : CallSite → Option Span)
  | element (find : ElementSite → Option Span)

namespace Visitor

def kind : Visitor → SiteKind
  | call _ => .call
  | element _ => .element

def find? : Visitor → Site → Option Span
  | call find, .call site => find site
  | element find, .element site => find site
  | _, _ => none

end Visitor

inductive Category where
  | restriction | style
  deriving DecidableEq, Repr

structure Rule where
  name : String
  category : Category
  message : String
  docs : String
  visitors : List Visitor

namespace Rule

def plugin : String := "custom/"

/-- The name without the prefix of the plugin, which is removed once. -/
def bareName (name : String) : String :=
  if plugin.toList.isPrefixOf name.toList then String.ofList (name.toList.drop plugin.length) else name

def subscribesTo (rule : Rule) (kind : SiteKind) : Bool := rule.visitors.any (·.kind = kind)

def finding (rule : Rule) (severity : Severity) (span : Span) : Finding :=
  ((⟨rule.name, span, rule.message, none, .warning⟩ : Finding).withHelp rule.docs).withSeverity severity

end Rule
end ScriptLint
