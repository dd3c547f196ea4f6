import ScriptLint.Lint.Level
import ScriptLint.Proofs.WholeNumerals

/-! What a level may be written as. A list stands for its first item, so that only one leaf of a value counts, the one
that first items lead to. It has to be the word or the whole number of a level, and nothing else in the value matters. -/

namespace ScriptLint

namespace Json.Value

/-- The way from a value to the first item, as long as there is one, ends at a leaf. -/
inductive EndsAt : Value → Value → Prop where
  | here {leaf : Value} (last : ∀ item rest, leaf ≠ .array (item :: rest)) : EndsAt leaf leaf
  | first {item leaf : Value} (rest : List Value) (inside : EndsAt item leaf) : EndsAt (.array (item :: rest)) leaf

/-- Two values differ at most behind the first items of lists and inside objects. -/
inductive SameFirsts : Value → Value → Prop where
  | refl (value : Value) : SameFirsts value value
  | object (members others : List (String × Value)) : SameFirsts (.object members) (.object others)
  | array {item other : Value} (rest more : List Value) (inside : SameFirsts item other) :
    SameFirsts (.array (item :: rest)) (.array (other :: more))

def leading (behind : List (List Value)) (value : Value) : Value :=
  behind.foldl (fun value rest => .array (value :: rest)) value

theorem exists_endsAt : (value : Value) → ∃ leaf, EndsAt value leaf
  | .array (item :: rest) => by
    obtain ⟨leaf, inside⟩ := exists_endsAt item
    exact ⟨leaf, .first rest inside⟩
  | .array [] | .null | .boolean _ | .number _ | .string _ | .object _ => ⟨_, .here (by simp)⟩

theorem EndsAt.unique {value leaf other : Value} (ends : EndsAt value leaf) (also : EndsAt value other) :
    leaf = other := by
  induction ends with
  | here last =>
    cases also with
    | here _ => rfl
    | first rest inside => exact absurd rfl (last _ rest)
  | first rest inside ih =>
    cases also with
    | here last => exact absurd rfl (last _ rest)
    | first _ inside => exact ih inside

theorem EndsAt.last {value leaf : Value} (ends : EndsAt value leaf) (item : Value) (rest : List Value) :
    leaf ≠ .array (item :: rest) := by
  induction ends with
  | here last => exact last item rest
  | first _ _ ih => exact ih

end Json.Value

namespace Level
open Json

def number : Level → UInt64
  | off => 0
  | warn => 1
  | error => 2

def Writes (level : Level) (leaf : Value) : Prop :=
  leaf = .string level.text ∨ leaf = .number (.natural level.number)

theorem ofWord?_eq_some_iff (word : String) (level : Level) : ofWord? word = some level ↔ word = level.text := by
  unfold ofWord?
  split <;> cases level <;> simp_all [text]

theorem ofNatural?_eq_some_iff (value : UInt64) (level : Level) :
    ofNatural? value = some level ↔ value = level.number := by
  unfold ofNatural?
  cases level <;> grind [number]

theorem ofJson?_eq_some_iff_of_leaf {leaf : Value} (last : ∀ item rest, leaf ≠ .array (item :: rest))
    (level : Level) : ofJson? leaf = some level ↔ level.Writes leaf := by
  unfold Writes
  cases leaf with
  | string word => simp [ofJson?, ofWord?_eq_some_iff]
  | number value =>
    cases value with
    | natural value => simp [ofJson?, ofNatural?_eq_some_iff]
    | negative value | real value => simp [ofJson?]
  | array items =>
    cases items with
    | nil => simp [ofJson?]
    | cons item rest => exact absurd rfl (last item rest)
  | null | boolean value | object members => simp [ofJson?]

theorem ofJson?_array (item : Value) (rest : List Value) : ofJson? (.array (item :: rest)) = ofJson? item := by
  rw [ofJson?]

theorem ofJson?_of_endsAt {value leaf : Value} (ends : value.EndsAt leaf) : ofJson? value = ofJson? leaf := by
  induction ends with
  | here _ => rfl
  | first rest _ ih => rw [ofJson?_array, ih]

theorem ofJson?_eq_some_iff (value : Value) (level : Level) :
    ofJson? value = some level ↔ ∃ leaf, value.EndsAt leaf ∧ level.Writes leaf := by
  obtain ⟨leaf, ends⟩ := value.exists_endsAt
  rw [ofJson?_of_endsAt ends, ofJson?_eq_some_iff_of_leaf ends.last]
  constructor
  · intro writes
    exact ⟨leaf, ends, writes⟩
  · intro ⟨other, also, writes⟩
    rw [ends.unique also]
    exact writes

theorem ofJson?_eq_none_iff (value : Value) :
    ofJson? value = none ↔ ∃ leaf, value.EndsAt leaf ∧ ∀ level : Level, ¬ level.Writes leaf := by
  obtain ⟨leaf, ends⟩ := value.exists_endsAt
  rw [Option.eq_none_iff_forall_ne_some]
  constructor
  · intro none
    refine ⟨leaf, ends, fun level writes => none level ?_⟩
    exact (ofJson?_eq_some_iff value level).mpr ⟨leaf, ends, writes⟩
  · intro ⟨other, also, unwritten⟩ level read
    obtain ⟨leaf, ends, writes⟩ := (ofJson?_eq_some_iff value level).mp read
    rw [ends.unique also] at writes
    exact unwritten level writes

theorem ofJson?_eq_of_sameFirsts {value other : Value} (same : value.SameFirsts other) :
    ofJson? other = ofJson? value := by
  induction same with
  | refl _ => rfl
  | object members others => simp [ofJson?]
  | array rest more _ ih => rw [ofJson?_array, ofJson?_array, ih]

theorem ofJson?_leading (behind : List (List Value)) (value : Value) :
    ofJson? (value.leading behind) = ofJson? value := by
  induction behind generalizing value with
  | nil => rfl
  | cons rest behind ih =>
    calc ofJson? (value.leading (rest :: behind))
      _ = ofJson? (Value.array (value :: rest)) := ih _
      _ = ofJson? value := ofJson?_array value rest

theorem ofText_eq_ok_iff (text : String) (level : Level) :
    ofText text = .ok level ↔ ∃ value, Value.ofText text = .ok value ∧ ofJson? value = some level := by
  simp only [Value.ofText_eq_ok_iff]
  unfold ofText
  constructor
  · intro read
    dsimp only at read
    cases found : Reader.value (Reader.fuelFor (.ofText text)) 0 (.ofText text) with
    | error fault => simp [found] at read
    | ok pair =>
      obtain ⟨value, cursor⟩ := pair
      cases known : ofJson? value with
      | none => simp [found, known] at read
      | some known =>
        cases last : Reader.finish cursor with
        | error fault => simp_all
        | ok done => exact ⟨value, ⟨cursor, rfl, last⟩, by simp_all⟩
  · intro ⟨value, ⟨cursor, found, last⟩, known⟩
    simp [found, known, last]

theorem ofText_of_none {text : String} {value : Value} (read : Value.ofText text = .ok value)
    (unknown : ofJson? value = none) : ofText text = .error (.notLevel value) := by
  obtain ⟨cursor, found, _⟩ := (Value.ofText_eq_ok_iff text value).mp read
  simp [ofText, found, unknown]

/-- The number of a level is a single digit in the text, neither `1.0` nor `-0` nor `1e0`. -/
theorem toList_of_number {text : String} {number : Number} {level : Level}
    (read : Value.ofText text = .ok (.number number)) (known : ofText text = .ok level) :
    ∃ before behind, text.toList = before ++ (Number.natural level.number).render.toList ++ behind ∧
      (∀ c ∈ before, Cursor.isBlank c = true) ∧ ∀ c ∈ behind, Cursor.isBlank c = true := by
  obtain ⟨value, same, known⟩ := (ofText_eq_ok_iff text level).mp known
  rw [read] at same
  cases same
  have writes := (ofJson?_eq_some_iff_of_leaf (by simp) level).mp known
  have whole : number = .natural level.number := by simpa [Writes] using writes
  rw [whole] at read
  exact Value.toList_of_ofText_natural read

/-- One leaf of a value decides, and only as the word or the whole number of a level: not as an empty list, an object or
a number kept as binary64. Other items of lists and lists around the value do not change the level. A text is read as the
level of its value, with a complaint about a value that is none, and of the numerals only the digits `0`, `1` and `2` are
levels. -/
theorem leading_leaf_decides :
    (∀ value : Value,
      (∃ leaf, value.EndsAt leaf ∧ ∀ other, value.EndsAt other → other = leaf) ∧
      (∀ level, ofJson? value = some level ↔ ∃ leaf, value.EndsAt leaf ∧ level.Writes leaf) ∧
      (ofJson? value = none ↔ ∃ leaf, value.EndsAt leaf ∧ ∀ level : Level, ¬ level.Writes leaf) ∧
      (value.EndsAt (.array []) → ofJson? value = none) ∧
      (∀ members, value.EndsAt (.object members) → ofJson? value = none) ∧
      (∀ real, value.EndsAt (.number (.real real)) → ofJson? value = none) ∧
      (∀ other, value.SameFirsts other → ofJson? other = ofJson? value) ∧
      ∀ behind, ofJson? (value.leading behind) = ofJson? value) ∧
    (∀ text level, ofText text = .ok level ↔
      ∃ value, Value.ofText text = .ok value ∧ ofJson? value = some level) ∧
    (∀ text number level, Value.ofText text = .ok (.number number) → ofText text = .ok level →
      ∃ before behind, text.toList = before ++ (Number.natural level.number).render.toList ++ behind ∧
        (∀ c ∈ before, Cursor.isBlank c = true) ∧ ∀ c ∈ behind, Cursor.isBlank c = true) ∧
    ∀ text value, Value.ofText text = .ok value → ofJson? value = none →
      ∃ fault, ofText text = .error fault ∧ fault.message =
        "invalid severity " ++ value.render ++ ", expected \"off\", \"warn\", \"error\", 0, 1 or 2" := by
  refine ⟨fun value => ⟨?unique, ofJson?_eq_some_iff value, ofJson?_eq_none_iff value, ?empty, ?object, ?real,
    fun other => ofJson?_eq_of_sameFirsts, fun behind => ofJson?_leading behind value⟩,
    ofText_eq_ok_iff, fun text number level => toList_of_number, ?complaint⟩
  case unique =>
    obtain ⟨leaf, ends⟩ := value.exists_endsAt
    exact ⟨leaf, ends, fun other also => also.unique ends⟩
  case empty =>
    intro ends
    exact (ofJson?_of_endsAt ends).trans (by simp [ofJson?])
  case object =>
    intro members ends
    exact (ofJson?_of_endsAt ends).trans (by simp [ofJson?])
  case real =>
    intro real ends
    exact (ofJson?_of_endsAt ends).trans (by simp [ofJson?])
  case complaint =>
    intro text value read unknown
    exact ⟨.notLevel value, ofText_of_none read unknown, rfl⟩

example : (ofText " [[\"warn\", null], 2]").toOption = some .warn := by decide +kernel

example : (ofText "1.0").toOption = none := by decide +kernel

end Level
end ScriptLint
