import ScriptLint.Lint.Registry

/-! The levels at which rules are set. A rule that is not mentioned is off, but a rule that is set to
off is mentioned, and two configurations are equal only if they mention the same rules. -/

namespace ScriptLint

structure Config where
  levels : Std.ExtTreeMap String Level
  deriving DecidableEq

namespace Config

def none : Config := ⟨∅⟩

def withRule (config : Config) (name : String) (level : Level) : Config :=
  ⟨config.levels.insert (Rule.bareName name) level⟩

def stored? (config : Config) (name : String) : Option Level := config.levels[name]?

def level (config : Config) (name : String) : Level :=
  (config.stored? (Rule.bareName name)).getD .off

def isEnabled (config : Config) (name : String) : Bool := (config.level name).isEnabled

def default : Config := ⟨Registry.builtin.names.foldl (fun levels name => levels.insert name .warn) ∅⟩

instance : Inhabited Config := ⟨default⟩

inductive NameError where
  | unknown (key : String)
  | duplicate (name : String)
  deriving DecidableEq, Repr

def addEntries (registry : Registry) : Config → List (String × Level) → Except NameError Config
  | config, [] => .ok config
  | config, (key, level) :: rest =>
    match registry.get? key with
    | .none => .error (.unknown key)
    | some rule =>
      if rule.name ∈ config.levels then .error (.duplicate rule.name)
      else addEntries registry ⟨config.levels.insert rule.name level⟩ rest

def lastEntries (entries : List (String × Level)) : List (String × Level) :=
  (entries.foldl (fun found (key, level) => found.insert key level)
    (∅ : Std.ExtTreeMap String Level)).toList

/-- The configuration of written entries. They fill a table, which then gives out what it has kept. -/
def ofEntries (table : List (String × Level) → List (String × Level)) (registry : Registry)
    (entries : List (String × Level)) : Except NameError Config :=
  addEntries registry none (table entries)

end Config
end ScriptLint
