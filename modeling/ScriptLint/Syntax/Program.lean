import ScriptLint.Syntax.Parser.Statement

/-! Reading a whole program. -/

namespace ScriptLint

namespace Syntax

open Parse in
def rule (g : Grammar) : Form → Parse Node
  | .expression => expression g
  | .assignment ascribable => assignment g ascribable
  | .binary strength => binary g strength
  | .unary => unary g
  | .operand => operand g
  | .primary => primary g
  | .statement place => statement g place
  | .type => type g
  | .binding => binding g
  | .element => element g

def grammar : Nat → Grammar
  | 0, _ => Parse.unexpected
  | depth + 1, form => rule (grammar depth) form

/-- Every level of nesting takes a character, and between two of these there are fewer than so many forms. -/
def formsPerCharacter : Nat := 16

def topLevel (g : Grammar) : Parse (List Node) := do
  let found ← Parse.manyUntil Parse.atEnd (g.statement .listed)
  if !(← get).defaults.isEmpty then Parse.record .misplaced
  return found

structure Outcome where
  body : Option (List Node)
  issues : List Issue
  modular : Bool

def read (scope : Scope) (text : String) : Outcome :=
  let scan := Lexer.skipInterpreter (Scan.ofText text)
  let depth := formsPerCharacter * scope.fuel
  match topLevel (grammar depth) scope (State.ofScan scan) with
  | .ok body state => ⟨some body, state.issues.reverse, state.modular⟩
  | .error issue state => ⟨none, (issue :: state.issues).reverse, state.modular⟩

def outermost (dialect : Dialect) (text : String) (modular : Bool) : Scope where
  dialect := dialect
  fuel := text.toList.length + 2
  awaits := modular
  returns := dialect.load = .common
  ambient := dialect.declaration

/-- Reads a text as a module or not. What may be either is a module if it imports or exports. -/
def readAs (dialect : Dialect) (text : String) : Outcome :=
  match dialect.load with
  | .modular => read (outermost dialect text true) text
  | .common => read (outermost dialect text false) text
  | .either =>
    let asModule := read (outermost dialect text true) text
    if asModule.modular then asModule else read (outermost dialect text false) text

end Syntax

namespace Program

def directive? : Node → Option Directive
  | .expressionStatement span (.literal _ (.string text)) => some ⟨span, text⟩
  | _ => none

def ofText (dialect : Dialect) (text : String) : Except (List Syntax.Issue) Program :=
  let outcome := Syntax.readAs dialect text
  match outcome.body, outcome.issues with
  | some body, [] =>
    .ok ⟨⟨0, Text.byteSize text.toList⟩,
      (body.takeWhile Syntax.Parse.isDirective).filterMap directive?,
      body.dropWhile Syntax.Parse.isDirective⟩
  | _, issues => .error issues

end Program

theorem exists_ok_of_any {E A : Type} {result : Except E A} {test : A → Bool}
    (fits : result.toOption.any test = true) : ∃ found, result = .ok found ∧ test found = true := by
  cases result with
  | error _ => simp [Except.toOption] at fits
  | ok found => exact ⟨found, rfl, by simpa [Except.toOption] using fits⟩

end ScriptLint
