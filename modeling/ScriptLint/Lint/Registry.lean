import Std.Data.ExtTreeMap
import ScriptLint.Lint.Rules.NoLiteral
import ScriptLint.Lint.Rules.NoFunctionApply
import ScriptLint.Lint.Rules.NoButton

/-! The rules that are known, in the order in which they run, with an index of their names. Of rules
with one name the last is found by it. -/

namespace ScriptLint

structure Registry where
  rules : List Rule
  byName : Std.ExtTreeMap String Nat

namespace Registry

def index (rules : List Rule) : Std.ExtTreeMap String Nat :=
  rules.zipIdx.foldl (fun found (rule, place) => found.insert rule.name place) ∅

def ofRules (rules : List Rule) : Registry := ⟨rules, index rules⟩

def builtin : Registry := ofRules [NoLiteral.rule, NoFunctionApply.rule, NoButton.rule]

def get? (registry : Registry) (name : String) : Option Rule :=
  registry.byName[Rule.bareName name]?.bind fun place => registry.rules[place]?

def contains (registry : Registry) (name : String) : Bool := (registry.get? name).isSome

def names (registry : Registry) : List String := registry.rules.map Rule.name

def visitorsFor (registry : Registry) (kind : SiteKind) : List Rule :=
  registry.rules.filter (·.subscribesTo kind)

end Registry
end ScriptLint
