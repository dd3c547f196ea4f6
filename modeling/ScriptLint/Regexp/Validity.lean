import ScriptLint.Regexp.Pattern

/-! Which patterns and flags make a regular expression. -/

namespace ScriptLint.Regexp

def validFlags (flags : List Char) : Bool :=
  flags.all "dgimsuvy".toList.contains && flags.Nodup && !(flags.contains 'u' && flags.contains 'v')

def countGroups : List Nat → Bool → Nat × Bool → Nat × Bool
  | 0x5C :: _ :: rest, bracketed, found => countGroups rest bracketed found
  | 0x28 :: rest, false, (count, named) =>
    match rest with
    | 0x3F :: 0x3C :: c :: _ =>
      if c = 0x3D || c = 0x21 then countGroups rest false (count, named)
      else countGroups rest false (count + 1, true)
    | 0x3F :: _ => countGroups rest false (count, named)
    | _ => countGroups rest false (count + 1, named)
  | 0x5B :: rest, _, found => countGroups rest true found
  | 0x5D :: rest, _, found => countGroups rest false found
  | _ :: rest, bracketed, found => countGroups rest bracketed found
  | [], _, found => found

def validPattern (mode : Mode) (pattern : List Nat) : Bool :=
  match (Reader.disjunction (4 * pattern.length + 8)).run mode |>.run pattern with
  | some (names, rest) => rest.isEmpty && names.references.all names.groups.contains
  | none => false

def isValid (pattern flags : List Char) : Bool :=
  let sets := flags.contains 'v'
  let unicode := sets || flags.contains 'u'
  let read := if unicode then pattern.map Char.toNat else pattern.flatMap units
  let (groups, named) := countGroups read false (0, false)
  validFlags flags && validPattern ⟨unicode, sets, unicode || named, groups⟩ read

end ScriptLint.Regexp
