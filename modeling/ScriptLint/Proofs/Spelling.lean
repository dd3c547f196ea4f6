import ScriptLint.Proofs.TemplateText
import ScriptLint.Syntax.Lexer

/-! The spellings of a constant. What a text between quotes or backticks means is said here without a lexer, as a
relation between the text, its meaning and what follows. The lexer reads every spelling as its meaning, so that
quotes and backticks agree on all escapes that they have in common. -/

namespace ScriptLint.Syntax

structure HexNumber (digits : List Char) (number : Nat) : Prop where
  known : ∀ c ∈ digits, (Lexer.hexValue? c).isSome = true
  value : digits.foldl (fun value c => value * 16 + (Lexer.hexValue? c).getD 0) 0 = number

def letterEscapes : List (Char × Char) :=
  [('n', '\n'), ('t', '\t'), ('r', '\r'), ('b', '\x08'), ('v', '\x0b'), ('f', '\x0c')]

/-- A text behind a backslash, what the escape means and the text behind it. Octal digits and single halves of
pairs are left out, since a template has none of the former and the latter mean no character. -/
inductive EscapeMeans : List Char → List Char → List Char → Prop where
  | letter {c meant : Char} {rest : List Char} (known : (c, meant) ∈ letterEscapes) :
    EscapeMeans (c :: rest) [meant] rest
  | itself {c : Char} {rest : List Char} (other : c ∉ ['n', 't', 'r', 'b', 'v', 'f', 'x', 'u'])
    (noDigit : c.isDigit = false) (noBreak : Lexer.isLineBreak c = false) : EscapeMeans (c :: rest) [c] rest
  | null {rest : List Char} (single : rest.head?.any Char.isDigit = false) :
    EscapeMeans ('0' :: rest) [Char.ofNat 0] rest
  | byte {digits rest : List Char} {c : Char} (two : digits.length = 2) (number : HexNumber digits c.toNat) :
    EscapeMeans ('x' :: (digits ++ rest)) [c] rest
  | unit {digits rest : List Char} {c : Char} (four : digits.length = 4) (number : HexNumber digits c.toNat) :
    EscapeMeans ('u' :: (digits ++ rest)) [c] rest
  | pair {high low rest : List Char} {first second : Nat} {c : Char} (fourHigh : high.length = 4)
    (fourLow : low.length = 4) (highNumber : HexNumber high first) (lowNumber : HexNumber low second)
    (isHigh : Lexer.isHighSurrogate first = true) (isLow : Lexer.isLowSurrogate second = true)
    (number : c.toNat = 0x10000 + (first - 0xD800) * 0x400 + (second - 0xDC00)) :
    EscapeMeans ('u' :: (high ++ '\\' :: 'u' :: (low ++ rest))) [c] rest
  | braced {digits rest : List Char} {c : Char} (digit : digits ≠ []) (number : HexNumber digits c.toNat) :
    EscapeMeans ('u' :: '{' :: (digits ++ '}' :: rest)) [c] rest
  | lineBreak {c : Char} {rest : List Char} (isBreak : Lexer.isLineBreak c = true)
    (whole : c = '\r' → rest.head? ≠ some '\n') : EscapeMeans (c :: rest) [] rest
  | carriageFeed {rest : List Char} : EscapeMeans ('\r' :: '\n' :: rest) [] rest

structure IsPlain (delimiter c : Char) (text : List Char) : Prop where
  noDelimiter : c ≠ delimiter
  noBackslash : c ≠ '\\'
  noCarriage : c ≠ '\r'
  feedInTemplate : c = '\n' → delimiter = '`'
  noSubstitution : delimiter = '`' → c = '$' → text.head? ≠ some '{'

/-- A text behind the first of two delimiters, what it means up to the second one and the text behind that. -/
inductive Spells (delimiter : Char) : List Char → List Char → List Char → Prop where
  | close {rest : List Char} : Spells delimiter (delimiter :: rest) [] rest
  | plain {c : Char} {text meant rest : List Char} (itself : IsPlain delimiter c text)
    (more : Spells delimiter text meant rest) : Spells delimiter (c :: text) (c :: meant) rest
  | escape {text first behind meant rest : List Char} (means : EscapeMeans text first behind)
    (more : Spells delimiter behind meant rest) : Spells delimiter ('\\' :: text) (first ++ meant) rest
  | carriage {text meant rest : List Char} (inTemplate : delimiter = '`') (single : text.head? ≠ some '\n')
    (more : Spells delimiter text meant rest) : Spells delimiter ('\r' :: text) ('\n' :: meant) rest
  | carriageFeed {text meant rest : List Char} (inTemplate : delimiter = '`')
    (more : Spells delimiter text meant rest) : Spells delimiter ('\r' :: '\n' :: text) ('\n' :: meant) rest

theorem EscapeMeans.length_lt {text meant rest : List Char} (means : EscapeMeans text meant rest) :
    rest.length < text.length := by
  cases means <;> simp only [List.length_cons, List.length_append] <;> omega

namespace Lexer

theorem hexDigits_of_known {digits rest : List Char} (known : ∀ c ∈ digits, (hexValue? c).isSome = true)
    (value : Nat) {scan : Scan} (starts : scan.rest = digits ++ rest) :
    ∃ after, hexDigits digits.length value scan =
      some (digits.foldl (fun value c => value * 16 + (hexValue? c).getD 0) value, after) ∧ after.rest = rest := by
  induction digits generalizing value scan with
  | nil => exact ⟨scan, rfl, starts⟩
  | cons c digits ih =>
    obtain ⟨digit, isDigit⟩ := Option.isSome_iff_exists.mp (known c List.mem_cons_self)
    obtain ⟨after, read, left⟩ := ih (fun d inside => known d (List.mem_cons_of_mem c inside)) (value * 16 + digit)
      (Scan.rest_next_of_cons starts)
    refine ⟨after, ?_, left⟩
    simp only [List.length_cons, hexDigits, starts, List.cons_append, isDigit, read, List.foldl_cons, Option.getD_some]

theorem hexDigits_of_number {digits rest : List Char} {count number : Nat} (written : HexNumber digits number)
    (length : digits.length = count) {scan : Scan} (starts : scan.rest = digits ++ rest) :
    ∃ after, hexDigits count 0 scan = some (number, after) ∧ after.rest = rest := by
  obtain ⟨after, read, left⟩ := hexDigits_of_known written.known 0 starts
  rw [length, written.value] at read
  exact ⟨after, read, left⟩

theorem toNat_scalar (c : Char) : c.toNat < 0xD800 ∨ 0xDFFF < c.toNat ∧ c.toNat < 0x110000 := c.valid

theorem bracedHex_of_number {digits rest : List Char} {c : Char} (digit : digits ≠ [])
    (written : HexNumber digits c.toNat) {scan : Scan} (starts : scan.rest = digits ++ '}' :: rest) :
    ∃ after, bracedHex scan = some (c.toNat, after) ∧ after.rest = rest := by
  obtain ⟨taken, left⟩ := Scan.takeWhile_of_stop written.known (by rfl) starts
  obtain ⟨first, more, parts⟩ := List.exists_cons_of_ne_nil digit
  have scalar := toNat_scalar c
  have value := written.value
  have valid : c.toNat ≤ 0x10FFFF := by omega
  refine ⟨(scan.takeWhile fun c => (hexValue? c).isSome).2.next, ?_, ?_⟩
  · rw [parts] at taken value
    simp only [bracedHex, taken, left, value, if_pos valid]
  · exact Scan.rest_next_of_cons left

theorem codePoint_of_number {digits rest : List Char} {number : Nat} (four : digits.length = 4)
    (written : HexNumber digits number) {scan : Scan} (starts : scan.rest = digits ++ rest) :
    ∃ after, codePoint scan = some (number, after) ∧ after.rest = rest := by
  obtain ⟨after, read, left⟩ := hexDigits_of_number written four starts
  refine ⟨after, ?_, left⟩
  unfold codePoint
  split
  · rename_i inside braced
    obtain ⟨first, more, rfl⟩ := List.exists_cons_of_length_eq_add_one four
    rw [braced] at starts
    obtain ⟨rfl, -⟩ := List.cons.inj starts
    exact absurd (written.known '{' List.mem_cons_self) (by decide)
  · exact read

theorem unicodeEscape_of_codePoint {c : Char} {scan after : Scan} (read : codePoint scan = some (c.toNat, after)) :
    unicodeEscape scan = some ([c], after) := by
  have scalar := toNat_scalar c
  have noHigh : isHighSurrogate c.toNat = false := by
    simp only [isHighSurrogate, Bool.and_eq_false_iff, decide_eq_false_iff_not]
    omega
  have noLow : isLowSurrogate c.toNat = false := by
    simp only [isLowSurrogate, Bool.and_eq_false_iff, decide_eq_false_iff_not]
    omega
  simp only [unicodeEscape, read, noHigh, noLow, Char.ofNat_toNat, Bool.false_eq_true, if_false]

theorem unicodeEscape_of_pair {high low rest : List Char} {first second : Nat} {c : Char} (fourHigh : high.length = 4)
    (fourLow : low.length = 4) (highNumber : HexNumber high first) (lowNumber : HexNumber low second)
    (isHigh : isHighSurrogate first = true) (isLow : isLowSurrogate second = true)
    (number : c.toNat = 0x10000 + (first - 0xD800) * 0x400 + (second - 0xDC00)) {scan : Scan}
    (starts : scan.rest = high ++ '\\' :: 'u' :: (low ++ rest)) :
    ∃ after, unicodeEscape scan = some ([c], after) ∧ after.rest = rest := by
  obtain ⟨between, firstRead, firstLeft⟩ := codePoint_of_number fourHigh highNumber starts
  obtain ⟨behind, passed, secondStarts⟩ := Scan.past?_of_starts ['\\', 'u'] firstLeft
  obtain ⟨after, secondRead, left⟩ := hexDigits_of_number lowNumber fourLow secondStarts
  refine ⟨after, ?_, left⟩
  simp only [unicodeEscape, firstRead, isHigh, passed, secondRead, isLow, if_true, ← number, Char.ofNat_toNat]

/-- What an escape means does not depend on whether it stands in a template. -/
theorem escape_of_means {text meant rest : List Char} (means : EscapeMeans text meant rest) (template : Bool)
    {scan : Scan} (starts : scan.rest = text) :
    ∃ after, escape template scan = some (meant, after) ∧ after.rest = rest := by
  have behind : scan.next.rest = text.tail := by rw [Scan.rest_next, starts]
  cases means with
  | letter known =>
    simp only [letterEscapes, List.mem_cons, Prod.mk.injEq, List.not_mem_nil, or_false] at known
    rcases known with ⟨rfl, rfl⟩ | ⟨rfl, rfl⟩ | ⟨rfl, rfl⟩ | ⟨rfl, rfl⟩ | ⟨rfl, rfl⟩ | ⟨rfl, rfl⟩
    all_goals
      refine ⟨scan.next, ?_, behind⟩
      simp only [escape, starts]
      rfl
  | @itself c _ other noDigit noBreak =>
    refine ⟨scan.next, ?_, behind⟩
    have noCarriage : c ≠ '\r' := by
      rintro rfl
      contradiction
    have noZero : c ≠ '0' := by
      rintro rfl
      contradiction
    have noOctal : isOctal c = false := Bool.eq_false_iff.mpr fun octal => by
      rw [isDigit_of_isOctal octal] at noDigit
      contradiction
    simp only [List.mem_cons, List.not_mem_nil, or_false, not_or] at other
    simp [escape, starts, noCarriage, noBreak, other, noZero, noDigit, noOctal]
  | null single =>
    refine ⟨scan.next, ?_, behind⟩
    simp only [escape, starts]
    simp [isLineBreak, single]
  | byte two number =>
    obtain ⟨after, read, left⟩ := hexDigits_of_number number two behind
    refine ⟨after, ?_, left⟩
    simp only [escape, starts]
    change (hexDigits 2 0 scan.next).map _ = _
    rw [read, Option.map_some, Char.ofNat_toNat]
  | unit four number =>
    obtain ⟨after, read, left⟩ := codePoint_of_number four number behind
    refine ⟨after, ?_, left⟩
    simp only [escape, starts]
    exact unicodeEscape_of_codePoint read
  | pair fourHigh fourLow highNumber lowNumber isHigh isLow number =>
    obtain ⟨after, read, left⟩ :=
      unicodeEscape_of_pair fourHigh fourLow highNumber lowNumber isHigh isLow number behind
    refine ⟨after, ?_, left⟩
    simp only [escape, starts]
    exact read
  | braced digit number =>
    obtain ⟨after, read, left⟩ := bracedHex_of_number digit number (Scan.rest_next_of_cons behind)
    refine ⟨after, ?_, left⟩
    simp only [escape, starts]
    apply unicodeEscape_of_codePoint
    simp only [codePoint, behind, List.tail_cons, read]
  | @lineBreak c _ isBreak whole =>
    refine ⟨scan.next, ?_, behind⟩
    have noFeed (more : List Char) (carriage : c = '\r') (feed : rest = '\n' :: more) : False :=
      whole carriage (by rw [feed, List.head?_cons])
    simp [escape, starts, isBreak]
  | carriageFeed =>
    refine ⟨scan.next.next, ?_, by rw [Scan.rest_next, behind]; rfl⟩
    simp only [escape, starts]
    rfl

theorem append_meant (reversed first meant : List Char) :
    reversed.reverse ++ (first ++ meant) = (first.reverse ++ reversed).reverse ++ meant := by
  rw [List.reverse_append, List.reverse_reverse, List.append_assoc]

section Strings

variable {quote : Char} {scan : Scan} {fuel : Nat} (reversed : List Char)

theorem stringRest_close (noBackslash : quote ≠ '\\') {rest : List Char} (starts : scan.rest = quote :: rest) :
    stringRest (fuel + 1) quote scan reversed = .ok (String.ofList reversed.reverse, scan.next) := by
  simp [stringRest, starts]

theorem stringRest_plain {c : Char} {text : List Char} (itself : IsPlain quote c text) (isQuote : quote ≠ '`')
    (starts : scan.rest = c :: text) :
    stringRest (fuel + 1) quote scan reversed = stringRest fuel quote scan.next (c :: reversed) := by
  have noFeed : c ≠ '\n' := fun feed => isQuote (itself.feedInTemplate feed)
  simp [stringRest, starts, itself.noBackslash, itself.noDelimiter, noFeed, itself.noCarriage]

theorem stringRest_escape {text meant : List Char} {after : Scan} (starts : scan.rest = '\\' :: text)
    (read : escape false scan.next = some (meant, after)) :
    stringRest (fuel + 1) quote scan reversed = stringRest fuel quote after (meant.reverse ++ reversed) := by
  simp only [stringRest, starts, read]

theorem stringRest_of_spells {input meant rest : List Char} (noBackslash : quote ≠ '\\') (isQuote : quote ≠ '`')
    (spelled : Spells quote input meant rest) (enough : input.length ≤ fuel) (starts : scan.rest = input) :
    ∃ after, stringRest fuel quote scan reversed = .ok (String.ofList (reversed.reverse ++ meant), after) ∧
      after.rest = rest := by
  -- Each piece takes one unit of fuel and at least one character.
  induction spelled generalizing fuel scan reversed with
  | close =>
    obtain ⟨fuel, rfl⟩ := Nat.exists_eq_add_one.mpr (Nat.zero_lt_of_lt enough)
    refine ⟨scan.next, ?_, Scan.rest_next_of_cons starts⟩
    rw [stringRest_close reversed noBackslash starts, List.append_nil]
  | plain itself more ih =>
    obtain ⟨fuel, rfl⟩ := Nat.exists_eq_add_one.mpr (Nat.zero_lt_of_lt enough)
    rw [stringRest_plain reversed itself isQuote starts, List.append_cons, ← List.reverse_cons]
    exact ih _ (Nat.le_of_succ_le_succ enough) (Scan.rest_next_of_cons starts)
  | escape means more ih =>
    obtain ⟨fuel, rfl⟩ := Nat.exists_eq_add_one.mpr (Nat.zero_lt_of_lt enough)
    obtain ⟨after, escaped, left⟩ := escape_of_means means false (Scan.rest_next_of_cons starts)
    rw [stringRest_escape reversed starts escaped, append_meant]
    exact ih _ (Nat.le_trans (Nat.le_of_lt means.length_lt) (Nat.le_of_succ_le_succ enough)) left
  | carriage inTemplate => exact absurd inTemplate isQuote
  | carriageFeed inTemplate => exact absurd inTemplate isQuote

end Strings

section Templates

variable {scan : Scan} {fuel : Nat} (raw reversed : List Char)

theorem templateRest_piece {c : Char} {text written meant : List Char} {after : Scan} (starts : scan.rest = c :: text)
    (noDelimiter : c ≠ '`') (noSubstitution : c = '$' → text.head? ≠ some '{')
    (piece : templatePiece scan = (written, some meant, after)) :
    templateRest (fuel + 1) scan raw (some reversed) =
      templateRest fuel after (written.reverse ++ raw) (some (meant.reverse ++ reversed)) := by
  rw [templateRest]
  dsimp only
  split
  · rename_i none
    rw [none] at starts
    contradiction
  · rename_i backtick
    rw [backtick] at starts
    exact absurd (List.cons.inj starts).1.symm noDelimiter
  · rename_i brace
    rw [brace] at starts
    obtain ⟨rfl, rfl⟩ := List.cons.inj starts
    exact absurd rfl (noSubstitution rfl)
  · rw [piece]
    rfl

theorem templatePiece_plain {c : Char} {text : List Char} (itself : IsPlain '`' c text)
    (starts : scan.rest = c :: text) : templatePiece scan = ([c], some [c], scan.next) := by
  simp [templatePiece, starts, itself.noBackslash, itself.noCarriage]

theorem templatePiece_carriage {text : List Char} (single : text.head? ≠ some '\n')
    (starts : scan.rest = '\r' :: text) : templatePiece scan = (['\n'], some ['\n'], scan.next) := by
  have noFeed (more : List Char) (feed : text = '\n' :: more) : False := single (by rw [feed, List.head?_cons])
  simp [templatePiece, starts]

theorem templatePiece_carriageFeed {text : List Char} (starts : scan.rest = '\r' :: '\n' :: text) :
    templatePiece scan = (['\n'], some ['\n'], scan.drop 2) ∧ (scan.drop 2).rest = text := by
  constructor
  · simp only [templatePiece, starts]
  · rw [Scan.rest_drop, starts]
    rfl

theorem templatePiece_of_escape {c : Char} {text meant : List Char} {after : Scan} (noCarriage : c ≠ '\r')
    (starts : scan.rest = '\\' :: c :: text) (read : escape true scan.next = some (meant, after)) :
    ∃ written, templatePiece scan = (written, some meant, after) := by
  simp [templatePiece, starts, noCarriage, read]

theorem templatePiece_of_means {text meant rest : List Char} (means : EscapeMeans text meant rest)
    (starts : scan.rest = '\\' :: text) :
    ∃ written after, templatePiece scan = (written, some meant, after) ∧ after.rest = rest := by
  obtain ⟨after, read, left⟩ := escape_of_means means true (Scan.rest_next_of_cons starts)
  have piece {c : Char} {others : List Char} (noCarriage : c ≠ '\r') (begins : scan.rest = '\\' :: c :: others) :
      ∃ written after, templatePiece scan = (written, some meant, after) ∧ after.rest = rest := by
    obtain ⟨written, found⟩ := templatePiece_of_escape noCarriage begins read
    exact ⟨written, after, found, left⟩
  cases means with
  | letter known =>
    refine piece ?_ starts
    rintro rfl
    simp [letterEscapes] at known
  | itself other noDigit noBreak =>
    refine piece ?_ starts
    rintro rfl
    contradiction
  | null | byte | unit | pair | braced => exact piece (by decide) starts
  | @lineBreak c _ isBreak whole =>
    by_cases carriage : c = '\r'
    · subst carriage
      refine ⟨['\\', '\n'], scan.drop 2, ?_, by rw [Scan.rest_drop, starts]; rfl⟩
      have noFeed (more : List Char) (feed : rest = '\n' :: more) : False :=
        whole rfl (by rw [feed, List.head?_cons])
      simp [templatePiece, starts]
    · exact piece carriage starts
  | carriageFeed =>
    refine ⟨['\\', '\n'], scan.drop 3, ?_, by rw [Scan.rest_drop, starts]; rfl⟩
    simp only [templatePiece, starts]

/-- A spelling is read piece by piece, with the meaning of the pieces before it in reverse. -/
theorem templateRest_of_spells {input meant rest : List Char} (spelled : Spells '`' input meant rest)
    (enough : input.length ≤ fuel) (starts : scan.rest = input) :
    ∃ quasi after, templateRest fuel scan raw (some reversed) = .ok (.template quasi true, after) ∧
      quasi.cooked = some (String.ofList (reversed.reverse ++ meant)) ∧ after.rest = rest := by
  induction spelled generalizing fuel scan raw reversed with
  | close =>
    obtain ⟨fuel, rfl⟩ := Nat.exists_eq_add_one.mpr (Nat.zero_lt_of_lt enough)
    refine ⟨⟨String.ofList raw.reverse, some (String.ofList reversed.reverse)⟩, scan.next, ?_, ?_,
      Scan.rest_next_of_cons starts⟩
    · simp only [templateRest, starts]
      rfl
    · rw [List.append_nil]
  | plain itself more ih =>
    obtain ⟨fuel, rfl⟩ := Nat.exists_eq_add_one.mpr (Nat.zero_lt_of_lt enough)
    have piece := templatePiece_plain itself starts
    rw [templateRest_piece raw reversed starts itself.noDelimiter (itself.noSubstitution rfl) piece, List.append_cons,
      ← List.reverse_cons]
    exact ih _ _ (Nat.le_of_succ_le_succ enough) (Scan.rest_next_of_cons starts)
  | escape means more ih =>
    obtain ⟨fuel, rfl⟩ := Nat.exists_eq_add_one.mpr (Nat.zero_lt_of_lt enough)
    obtain ⟨written, after, piece, left⟩ := templatePiece_of_means means starts
    rw [templateRest_piece raw reversed starts (by decide) (by simp) piece, append_meant]
    exact ih _ _ (Nat.le_trans (Nat.le_of_lt means.length_lt) (Nat.le_of_succ_le_succ enough)) left
  | carriage inTemplate single more ih =>
    obtain ⟨fuel, rfl⟩ := Nat.exists_eq_add_one.mpr (Nat.zero_lt_of_lt enough)
    have piece := templatePiece_carriage single starts
    rw [templateRest_piece raw reversed starts (by decide) (by simp) piece, List.append_cons, ← List.reverse_cons]
    exact ih _ _ (Nat.le_of_succ_le_succ enough) (Scan.rest_next_of_cons starts)
  | carriageFeed inTemplate more ih =>
    obtain ⟨fuel, rfl⟩ := Nat.exists_eq_add_one.mpr (Nat.zero_lt_of_lt enough)
    obtain ⟨piece, left⟩ := templatePiece_carriageFeed starts
    rw [templateRest_piece raw reversed starts (by decide) (by simp) piece, List.append_cons, ← List.reverse_cons]
    exact ih _ _ (Nat.le_of_succ_le (Nat.le_of_succ_le_succ enough)) left

end Templates

end Lexer

def delimiters : List Char := ['"', '\'', '`']

def Scan.StartsConstant (scan : Scan) (name : String) : Prop :=
  ∃ delimiter input rest, delimiter ∈ delimiters ∧ scan.rest = delimiter :: input ∧ input.length ≤ scan.fuel ∧
    Spells delimiter input name.toList rest

namespace Lexer

theorem kindAt_of_startsConstant {scan : Scan} {name : String} (starts : scan.StartsConstant name) :
    (kindAt scan).1 = .string name ∨
      scan.rest.head? = some '`' ∧
        ∃ quasi, (kindAt scan).1 = .template quasi true ∧ quasi.cooked = some name ∧ quasi.IsRead := by
  obtain ⟨delimiter, input, rest, known, begins, enough, spelled⟩ := starts
  have inside : scan.next.rest = input := Scan.rest_next_of_cons begins
  simp only [delimiters, List.mem_cons, List.not_mem_nil, or_false] at known
  have quoted (isQuote : delimiter = '"' ∨ delimiter = '\'') : (kindAt scan).1 = .string name := by
    have noBackslash : delimiter ≠ '\\' := by rcases isQuote with rfl | rfl <;> decide
    have noBacktick : delimiter ≠ '`' := by rcases isQuote with rfl | rfl <;> decide
    obtain ⟨after, read, -⟩ := stringRest_of_spells [] noBackslash noBacktick spelled enough inside
    have whole : string delimiter scan = .ok (name, after) := by
      rw [string, read]
      simp
    simp [kindAt, begins, isQuote, whole]
  obtain isDouble | isSingle | rfl := known
  · exact .inl (quoted (.inl isDouble))
  · exact .inl (quoted (.inr isSingle))
  · obtain ⟨quasi, after, read, cooked, -⟩ := templateRest_of_spells [] [] spelled enough inside
    refine .inr ⟨by rw [begins, List.head?_cons], quasi, ?_, ?_, scan, true, after, read⟩
    · have whole : template scan = .ok (.template quasi true, after) := read
      simp [kindAt, begins, whole]
    · simpa using cooked

theorem token_of_startsConstant {scan : Scan} {name : String} (starts : scan.StartsConstant name) :
    (token scan).1.kind = (kindAt scan).1 := by
  obtain ⟨delimiter, input, rest, known, begins, -⟩ := starts
  have noTrivia : skipTrivia scan.fuel scan false = .ok (false, scan) := by
    cases scan.fuel with
    | zero => rfl
    | succ fuel =>
      simp only [delimiters, List.mem_cons, List.not_mem_nil, or_false] at known
      rcases known with rfl | rfl | rfl <;> simp [skipTrivia, begins, isLineBreak, isBlank]
  simp [token, noTrivia]

end Lexer
end ScriptLint.Syntax
