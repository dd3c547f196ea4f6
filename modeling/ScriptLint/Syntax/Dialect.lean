/-! The language that a file is written in, told from its name. -/

namespace ScriptLint

/-- How a program is loaded. The kind `either` is settled by the program: one that imports or exports is
a module. -/
inductive LoadKind where
  | modular | common | either
  deriving DecidableEq, Repr

structure Dialect where
  typed : Bool
  elements : Bool
  load : LoadKind
  declaration : Bool := false
  deriving DecidableEq, Repr

namespace Dialect

def fallback : Dialect := ⟨true, true, .modular, false⟩

def untyped : Dialect := ⟨false, true, .either, false⟩

def pieces (separator : Char) (text : List Char) : List (List Char) :=
  match text with
  | [] => [[]]
  | c :: rest =>
    if c = separator then [] :: pieces separator rest
    else match pieces separator rest with
      | [] => [[c]]
      | piece :: more => (c :: piece) :: more

def fileName? (path : String) : Option (List Char) :=
  let components := (pieces '/' path.toList).filter fun part => part ≠ [] && part ≠ ['.']
  match components.getLast? with
  | some name => if name = ['.', '.'] then none else some name
  | none => none

def splitExtension? (name : List Char) : Option (List (List Char) × String) :=
  let parts := pieces '.' name
  match parts.reverse with
  | extension :: stem@(_ :: _) =>
    -- a name whose only dot is its first character has no extension
    if stem = [[]] then none else some (stem.reverse, String.ofList extension)
  | _ => none

/-- Declarations are named `x.d.ts`, `x.d.css.ts`, `x.d.mts` or `x.d.cts`. -/
def declares (stem : List (List Char)) (extension : String) : Bool :=
  match extension, stem.reverse with
  | "ts", last :: before :: _ => last = ['d'] || before = ['d']
  | "ts", [last] => last = ['d']
  | "mts", last :: _ :: _ | "cts", last :: _ :: _ => last = ['d']
  | _, _ => false

def ofExtension? : String → Option Dialect
  | "js" => some ⟨false, false, .either, false⟩
  | "mjs" => some ⟨false, false, .modular, false⟩
  | "cjs" => some ⟨false, false, .common, false⟩
  | "jsx" => some untyped
  | "ts" => some ⟨true, false, .either, false⟩
  | "mts" => some ⟨true, false, .modular, false⟩
  | "cts" => some ⟨true, false, .common, false⟩
  | "tsx" => some ⟨true, true, .either, false⟩
  | _ => none

def ofPath (path : String) : Dialect :=
  match (fileName? path).bind splitExtension? with
  | none => fallback
  | some (stem, extension) =>
    match ofExtension? extension with
    | none => fallback
    | some dialect => { dialect with declaration := declares stem extension }

end Dialect
end ScriptLint
