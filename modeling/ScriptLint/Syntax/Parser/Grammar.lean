import ScriptLint.Syntax.Parser.State

/-! The forms that contain each other. A part of the grammar is a function of the readers of all forms,
through which it reaches those that may hold it in turn. -/

namespace ScriptLint.Syntax

inductive Place where
  | listed | body
  deriving DecidableEq

inductive Form where
  | expression
  -- the flag says whether an arrow function in it may have a return type
  | assignment (ascribable : Bool)
  -- operands joined by operators that bind tighter than the given strength
  | binary (strength : Nat)
  | unary
  | operand
  | primary
  | statement (place : Place)
  | type
  | binding
  -- an element, up to and not including its last `>`
  | element

abbrev Grammar := Form → Parse Node

namespace Grammar

variable (g : Grammar)

def expression : Parse Node := g .expression

def assignment (ascribable : Bool) : Parse Node := g (.assignment ascribable)

def binary (strength : Nat) : Parse Node := g (.binary strength)

def unary : Parse Node := g .unary

def operand : Parse Node := g .operand

def primary : Parse Node := g .primary

def statement (place : Place) : Parse Node := g (.statement place)

def type : Parse Node := g .type

def binding : Parse Node := g .binding

def element : Parse Node := g .element

def inner : Parse Node := Parse.withIn g.expression

def innerAssignment : Parse Node := Parse.withIn (g.assignment true)

def insideType : Grammar
  | .type => Parse.inScope ({ · with conditionalTypes := true }) (g .type)
  | form => g form

end Grammar
end ScriptLint.Syntax
