import Mathlib.Data.Char
import ScriptLint.Lint.ConfigText

/-! Reading back what has been written. A quoted text is read as that text, whatever characters are in it, and a
text that sets one rule is read as the one entry. -/

namespace ScriptLint.Json.Quoted

/-- A character is written as an escape of one letter, as an escape of four digits or as itself. -/
theorem quotedChar_cases (c : Char) :
    (∃ letter, letter ≠ 'u' ∧ simpleEscape? letter = some c ∧ quotedChar c = ['\\', letter]) ∨
      (c.toNat < 32 ∧ quotedChar c = ['\\', 'u', '0', '0', hexDigit (c.toNat / 16), hexDigit c.toNat]) ∨
      (c ≠ '"' ∧ c ≠ '\\' ∧ 32 ≤ c.toNat ∧ quotedChar c = [c]) := by
  have eq_of_toNat (number : Nat) (same : c.toNat = number) : c = Char.ofNat number := by
    rw [← same, Char.ofNat_toNat]
  unfold quotedChar
  split_ifs with quote backslash feed carriage tab back form control
  · exact .inl ⟨'"', by decide, by rw [quote]; rfl, rfl⟩
  · exact .inl ⟨'\\', by decide, by rw [backslash]; rfl, rfl⟩
  · exact .inl ⟨'n', by decide, by rw [feed]; rfl, rfl⟩
  · exact .inl ⟨'r', by decide, by rw [carriage]; rfl, rfl⟩
  · exact .inl ⟨'t', by decide, by rw [tab]; rfl, rfl⟩
  · exact .inl ⟨'b', by decide, by rw [eq_of_toNat 8 back]; rfl, rfl⟩
  · exact .inl ⟨'f', by decide, by rw [eq_of_toNat 12 form]; rfl, rfl⟩
  · exact .inr (.inl ⟨control, rfl⟩)
  · exact .inr (.inr ⟨quote, backslash, Nat.le_of_not_lt control, rfl⟩)

theorem hexValue?_hexDigit (value : Nat) : hexValue? (hexDigit value) = some (value % 16) := by
  have digits : ∀ digit < 16, hexValue? (Nat.digitChar digit) = some digit := by decide
  exact digits (value % 16) (Nat.mod_lt _ (by decide))

theorem codeUnit_byte (place : Place) (after : List Char) (value : Nat) (small : value < 256) :
    ∃ behind, codeUnit ⟨place, '0' :: '0' :: hexDigit (value / 16) :: hexDigit value :: after⟩ =
      .ok (value, ⟨behind, after⟩) := by
  have zero : hexValue? '0' = some 0 := rfl
  have whole : ((0 * 16 + 0) * 16 + value / 16 % 16) * 16 + value % 16 = value := by omega
  simp only [codeUnit, zero, hexValue?_hexDigit, whole, Cursor.next]
  exact ⟨_, rfl⟩

theorem escape_letter (place : Place) (after : List Char) {letter c : Char} (other : letter ≠ 'u')
    (meant : simpleEscape? letter = some c) :
    escape ⟨place, letter :: after⟩ = .ok (c, ⟨place.past letter, after⟩) := by
  unfold escape
  split
  · rename_i nothing
    cases nothing
  · rename_i starts
    cases starts
    exact absurd rfl other
  · rename_i starts
    cases starts
    rw [meant]
    rfl

theorem escape_digits (place : Place) (after : List Char) {c : Char} (control : c.toNat < 32) :
    ∃ behind, escape ⟨place, 'u' :: '0' :: '0' :: hexDigit (c.toNat / 16) :: hexDigit c.toNat :: after⟩ =
      .ok (c, ⟨behind, after⟩) := by
  obtain ⟨behind, digits⟩ := codeUnit_byte (place.past 'u') after c.toNat (by omega)
  refine ⟨behind, ?_⟩
  have noTrail : ¬ (0xDC00 ≤ c.toNat ∧ c.toNat ≤ 0xDFFF) := by omega
  have single : c.toNat < 0xD800 ∨ 0xDBFF < c.toNat := by omega
  simp only [escape, Cursor.next, unicodeEscape, digits]
  change (if _ then _ else if _ then _ else _) = _
  rw [if_neg noTrail, if_pos single, Char.ofNat_toNat]

theorem go_escape {place : Place} {after : List Char} {c : Char} {behind : Place} {letters : List Char}
    (meant : escape ⟨place.past '\\', letters⟩ = .ok (c, ⟨behind, after⟩)) (fuel : Nat) (reversed : List Char) :
    read.go (fuel + 1) ⟨place, '\\' :: letters⟩ reversed = read.go fuel ⟨behind, after⟩ (c :: reversed) := by
  change (escape ⟨place.past '\\', letters⟩ >>= _) = _
  rw [meant]
  rfl

theorem go_plain (place : Place) (after : List Char) {c : Char} (noQuote : c ≠ '"') (noEscape : c ≠ '\\')
    (plain : 32 ≤ c.toNat) (fuel : Nat) (reversed : List Char) :
    read.go (fuel + 1) ⟨place, c :: after⟩ reversed = read.go fuel ⟨place.past c, after⟩ (c :: reversed) := by
  rw [read.go]
  split
  · rename_i nothing
    cases nothing
  · rename_i starts
    exact absurd (List.cons.inj starts).1 noQuote
  · rename_i starts
    exact absurd (List.cons.inj starts).1 noEscape
  · rename_i starts
    obtain ⟨rfl, rfl⟩ := List.cons.inj starts
    rw [if_neg (Nat.not_lt.mpr plain)]
    rfl

/-- What stands for a character is read as it, in one step. -/
theorem go_quotedChar (place : Place) (after : List Char) (fuel : Nat) (c : Char) (reversed : List Char) :
    ∃ behind, read.go (fuel + 1) ⟨place, quotedChar c ++ after⟩ reversed =
      read.go fuel ⟨behind, after⟩ (c :: reversed) := by
  obtain ⟨letter, notUnicode, meant, written⟩ | ⟨control, written⟩ | ⟨noQuote, noEscape, plain, written⟩ :=
    quotedChar_cases c
  · rw [written]
    exact ⟨_, go_escape (escape_letter _ after notUnicode meant) fuel reversed⟩
  · obtain ⟨behind, digits⟩ := escape_digits (place.past '\\') after control
    rw [written]
    exact ⟨behind, go_escape digits fuel reversed⟩
  · rw [written]
    exact ⟨_, go_plain place after noQuote noEscape plain fuel reversed⟩

theorem go_quoted (place : Place) (after text : List Char) (fuel : Nat) (enough : text.length < fuel)
    (reversed : List Char) :
    ∃ behind, read.go fuel ⟨place, text.flatMap quotedChar ++ '"' :: after⟩ reversed =
      .ok (String.ofList (reversed.reverse ++ text), ⟨behind, after⟩) := by
  induction text generalizing fuel place reversed with
  | nil =>
    obtain ⟨fuel, rfl⟩ := Nat.exists_eq_add_one.mpr enough
    rw [List.append_nil]
    exact ⟨_, rfl⟩
  | cons c rest ih =>
    rw [List.length_cons] at enough
    obtain ⟨fuel, rfl⟩ := Nat.exists_eq_add_one.mpr (Nat.zero_lt_of_lt enough)
    rw [List.flatMap_cons, List.append_assoc]
    obtain ⟨past, step⟩ := go_quotedChar place (rest.flatMap quotedChar ++ '"' :: after) fuel c reversed
    obtain ⟨behind, whole⟩ := ih past fuel (by omega) (c :: reversed)
    refine ⟨behind, ?_⟩
    rw [step, whole, List.reverse_cons, List.append_assoc, List.singleton_append]

theorem length_le_length_quoted (text : List Char) : text.length ≤ (text.flatMap quotedChar).length := by
  induction text with
  | nil => rfl
  | cons c rest ih =>
    have one : 1 ≤ (quotedChar c).length := by
      obtain ⟨letter, -, -, written⟩ | ⟨-, written⟩ | ⟨-, -, -, written⟩ := quotedChar_cases c <;> simp [written]
    rw [List.flatMap_cons, List.length_cons, List.length_append]
    omega

/-- A text is read back from behind its opening quote, whatever follows it. -/
theorem read_quoted (place : Place) (after text : List Char) :
    ∃ behind, read ⟨place, text.flatMap quotedChar ++ '"' :: after⟩ =
      .ok (String.ofList text, ⟨behind, after⟩) := by
  refine go_quoted place after text _ ?_ []
  have long := length_le_length_quoted text
  rw [List.length_append]
  omega

end ScriptLint.Json.Quoted

namespace ScriptLint.Json.Reader

def spelled (text after : List Char) : List Char := '"' :: (text.flatMap quotedChar ++ '"' :: after)

@[simp] theorem spelled_append (text after more : List Char) :
    spelled text after ++ more = spelled text (after ++ more) := by
  simp [spelled]

theorem skipBlanks_of_not_isBlank {c : Char} (visible : Cursor.isBlank c = false) (place : Place)
    (after : List Char) : Cursor.skipBlanks ⟨place, c :: after⟩ = ⟨place, c :: after⟩ := by
  simp [Cursor.skipBlanks, Cursor.skipWhile, Cursor.skipWhile.go, visible]

theorem nextKey_spelled (place : Place) (text after : List Char) :
    ∃ behind, nextKey true ⟨place, spelled text after⟩ = .ok (some (String.ofList text, ⟨behind, after⟩)) := by
  obtain ⟨behind, read⟩ := Quoted.read_quoted (place.past '"') after text
  refine ⟨behind, ?_⟩
  change (Quoted.read ⟨place.past '"', text.flatMap quotedChar ++ '"' :: after⟩ >>= _) = _
  rw [read]
  rfl

theorem value_spelled (fuel depth : Nat) (place : Place) (text after : List Char) :
    ∃ behind, value (fuel + 1) depth ⟨place, spelled text after⟩ =
      .ok (.string (String.ofList text), ⟨behind, after⟩) := by
  obtain ⟨behind, read⟩ := Quoted.read_quoted (place.past '"') after text
  refine ⟨behind, ?_⟩
  rw [value, spelled, skipBlanks_of_not_isBlank rfl]
  change ((Quoted.read ⟨place.past '"', text.flatMap quotedChar ++ '"' :: after⟩ >>= _) >>= _) = _
  rw [read]
  rfl

end ScriptLint.Json.Reader

namespace ScriptLint.ConfigText
open Json (Cursor Place)
open Json.Reader (fuelFor nextKey colon spelled nextKey_spelled value_spelled)

def single (key : String) (level : Level) : String :=
  (Json.Value.object [("rules", .object [(key, .string level.text)])]).render

theorem toList_single (key : String) (level : Level) :
    (single key level).toList = '{' :: spelled "rules".toList (':' :: '{' ::
      spelled key.toList (':' :: spelled level.text.toList ['}', '}'])) := by
  have quoted (text : String) (after : List Char) :
      (Json.quote text).toList ++ after = spelled text.toList after := by
    simp [Json.quote, spelled]
  simp [single, Json.Value.render, Json.Value.renderMembers, quoted]

example : single "custom/x" .error = "\x7b\"rules\":\x7b\"custom/x\":\"error\"\x7d\x7d" := by decide

theorem members_of_member {first : Bool} {cursor named behind next : Cursor} {key : String} {value : Json.Value}
    (starts : nextKey first cursor = .ok (some (key, named))) (separated : colon named = .ok next)
    (holds : Json.Reader.value (fuelFor named) 2 next = .ok (value, behind)) (fuel : Nat) (found : List Entry) :
    members (fuel + 1) first cursor found =
      members fuel false behind (found ++ [⟨key, value, placeAfter behind⟩]) := by
  have both : (do Json.Reader.value (fuelFor named) 2 (← colon named)) = .ok (value, behind) := by
    rw [separated]
    exact holds
  rw [members, starts]
  dsimp only
  rw [both]

theorem object_of_rules {first : Bool} {cursor named behind next : Cursor} {entries : List Entry}
    (starts : nextKey first cursor = .ok (some ("rules", named))) (separated : colon named = .ok next)
    (holds : rules next = ⟨entries, .ok behind⟩) (fuel : Nat) :
    object (fuel + 1) first cursor none = object fuel false behind (some entries) := by
  rw [object, starts]
  dsimp only
  rw [if_pos rfl, separated]
  dsimp only
  rw [holds]

theorem rules_spelled (place : Place) (after key word : List Char) :
    ∃ noted behind, rules ⟨place, '{' :: spelled key (':' :: spelled word ('}' :: after))⟩ =
      ⟨[⟨String.ofList key, .string (String.ofList word), noted⟩], .ok ⟨behind, after⟩⟩ := by
  obtain ⟨named, starts⟩ := nextKey_spelled (place.past '{') key (':' :: spelled word ('}' :: after))
  obtain ⟨behind, holds⟩ := value_spelled (2 * (':' :: spelled word ('}' :: after)).length + 1) 2
    (named.past ':') word ('}' :: after)
  exact ⟨_, behind.past '}', members_of_member starts rfl holds _ []⟩

theorem read_of_object {text : String} {rest : List Char} {entries : List Entry} {place : Place}
    (opens : text.toList = '{' :: rest)
    (holds : object (fuelFor ⟨⟨1, 0⟩, '{' :: rest⟩) true ⟨Place.past ⟨1, 0⟩ '{', rest⟩ none =
      ⟨entries, .ok ⟨place, []⟩⟩) : read text = ⟨entries, .ok ⟨place, []⟩⟩ := by
  have start : (Cursor.ofText text).skipBlanks = ⟨⟨1, 0⟩, '{' :: rest⟩ := by
    rw [Cursor.ofText, opens, Json.Reader.skipBlanks_of_not_isBlank rfl]
  simp only [read, start, Cursor.next, holds]
  rfl

/-- The text that sets one rule has that one entry. -/
theorem read_single (key : String) (level : Level) :
    ∃ noted behind, read (single key level) = ⟨[⟨key, .string level.text, noted⟩], .ok behind⟩ := by
  obtain ⟨named, starts⟩ := nextKey_spelled (Place.past ⟨1, 0⟩ '{') "rules".toList
    (':' :: '{' :: spelled key.toList (':' :: spelled level.text.toList ['}', '}']))
  obtain ⟨noted, behind, entry⟩ := rules_spelled (named.past ':') ['}'] key.toList level.text.toList
  rw [String.ofList_toList, String.ofList_toList] at entry
  refine ⟨noted, ⟨behind.past '}', []⟩, read_of_object (toList_single key level) ?_⟩
  exact object_of_rules starts rfl entry _

end ScriptLint.ConfigText
