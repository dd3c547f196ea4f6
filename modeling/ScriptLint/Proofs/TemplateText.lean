import Mathlib.Data.Nat.Digits.Defs
import ScriptLint.Proofs.Scanning
import ScriptLint.Syntax.Lexer.Quoted

/-! The two texts of a template, as written and with its escapes decoded. An escape is longer than what it means, so
that the texts are equal if and only if nothing is escaped. -/

namespace ScriptLint

namespace Syntax

namespace Lexer

theorem hexValue?_lt {c : Char} {digit : Nat} (value : hexValue? c = some digit) : digit < 16 := by
  unfold hexValue? at value
  split_ifs at value with decimal lower upper
  · simp only [Char.isDigit, Bool.and_eq_true, decide_eq_true_eq] at decimal
    cases value
    have high := UInt32.le_iff_toNat_le.mp decimal.2
    change c.toNat ≤ 57 at high
    omega
  · cases value
    have high := UInt32.le_iff_toNat_le.mp lower.2
    change c.toNat ≤ 102 at high
    omega
  · cases value
    have high := UInt32.le_iff_toNat_le.mp upper.2
    change c.toNat ≤ 70 at high
    omega

theorem length_of_hexDigits {count value code : Nat} {scan after : Scan}
    (read : hexDigits count value scan = some (code, after)) : after.rest.length + count = scan.rest.length := by
  induction count generalizing value scan with
  | zero =>
    cases read
    rfl
  | succ count ih =>
    unfold hexDigits at read
    split at read
    · contradiction
    · rename_i c rest starts
      split at read
      · contradiction
      · have whole := ih read
        rw [Scan.rest_next_of_cons starts] at whole
        rw [starts, List.length_cons, ← whole]
        rfl

theorem length_of_bracedHex {code : Nat} {scan after : Scan} (read : bracedHex scan = some (code, after)) :
    after.rest.length + 2 ≤ scan.rest.length ∧ (16 ≤ code → after.rest.length + 3 ≤ scan.rest.length) := by
  have whole := scan.length_takeWhile_add fun c => (hexValue? c).isSome
  unfold bracedHex at read
  dsimp only at read
  split at read
  · rename_i first digits behind digitsRead closes
    split at read
    · cases read
      rw [digitsRead, closes, List.length_cons, List.length_cons] at whole
      rw [Scan.rest_next, closes, List.tail_cons]
      refine ⟨by omega, fun large => ?_⟩
      -- One digit is below 16, so that there are two of them at least, and the brace.
      cases digits with
      | nil =>
        rw [digitsRead] at large
        cases value : hexValue? first with
        | none => simp [value] at large
        | some digit =>
          have small := hexValue?_lt value
          simp only [List.foldl_cons, List.foldl_nil, value, Option.getD_some] at large
          omega
      | cons second digits =>
        rw [List.length_cons] at whole
        omega
    · contradiction
  · contradiction

theorem length_of_codePoint {code : Nat} {scan after : Scan} (read : codePoint scan = some (code, after)) :
    after.rest.length + 3 ≤ scan.rest.length ∧ (16 ≤ code → after.rest.length + 4 ≤ scan.rest.length) := by
  unfold codePoint at read
  split at read
  · rename_i rest starts
    have braced := length_of_bracedHex read
    rw [Scan.rest_next_of_cons starts] at braced
    rw [starts, List.length_cons]
    omega
  · have whole := length_of_hexDigits read
    omega

theorem length_loneSurrogate {code : Nat} (small : code < 16 ^ 4) : (loneSurrogate code).length ≤ 5 := by
  have digits := Nat.toDigits_length 16 code 4 (by decide) small
  rw [loneSurrogate, List.length_cons]
  omega

theorem length_of_unicodeEscape {meant : List Char} {scan after : Scan}
    (read : unicodeEscape scan = some (meant, after)) : meant.length + after.rest.length ≤ scan.rest.length + 1 := by
  unfold unicodeEscape at read
  split at read
  · contradiction
  · rename_i code behind found
    obtain ⟨short, long⟩ := length_of_codePoint found
    -- A lone half becomes the replacement character and up to four digits, for which its own digits make up.
    have lone (half : 16 ≤ code ∧ code < 16 ^ 4) (same : some (loneSurrogate code, behind) = some (meant, after)) :
        meant.length + after.rest.length ≤ scan.rest.length + 1 := by
      cases same
      have digits := length_loneSurrogate half.2
      have enough := long half.1
      omega
    dsimp only at read
    split_ifs at read with high low
    · have half : 16 ≤ code ∧ code < 16 ^ 4 := by
        simp only [isHighSurrogate, Bool.and_eq_true, decide_eq_true_eq] at high
        omega
      split at read
      · exact lone half read
      · rename_i second passed
        split at read
        · rename_i lower afterPair pair
          split at read
          · cases read
            have escaped := Scan.length_of_past? passed
            have digits := length_of_hexDigits pair
            simp only [List.length_cons, List.length_nil] at escaped ⊢
            omega
          · exact lone half read
        · exact lone half read
    · refine lone ?_ read
      simp only [isLowSurrogate, Bool.and_eq_true, decide_eq_true_eq] at low
      omega
    · cases read
      rw [List.length_singleton]
      omega

theorem isDigit_of_isOctal {c : Char} (octal : isOctal c = true) : c.isDigit = true := by
  simp only [isOctal, Bool.and_eq_true, decide_eq_true_eq] at octal
  simp only [Char.isDigit, Bool.and_eq_true, decide_eq_true_eq]
  exact ⟨octal.1, UInt32.le_trans octal.2 (by decide : '7'.val ≤ '9'.val)⟩

/-- An escape in a template is at least as long as what it means, even without its backslash. -/
theorem length_of_escape {meant : List Char} {scan after : Scan} (read : escape true scan = some (meant, after)) :
    meant.length + after.rest.length ≤ scan.rest.length := by
  unfold escape at read
  split at read
  · contradiction
  · cases read
    rw [Scan.rest_drop, List.length_nil, List.length_drop]
    omega
  · rename_i c rest _ starts
    have whole : scan.next.rest.length + 1 = scan.rest.length := by
      rw [Scan.rest_next_of_cons starts, starts, List.length_cons]
    have single (found : Char) (same : some ([found], scan.next) = some (meant, after)) :
        meant.length + after.rest.length ≤ scan.rest.length := by
      cases same
      rw [List.length_singleton]
      omega
    split at read
    · cases read
      rw [List.length_nil]
      omega
    · split at read
      case h_7 =>
        obtain ⟨⟨code, behind⟩, digits, same⟩ := Option.map_eq_some_iff.mp read
        cases same
        have two := length_of_hexDigits digits
        rw [List.length_singleton]
        omega
      case h_8 =>
        have unicode := length_of_unicodeEscape read
        omega
      case h_9 =>
        split_ifs at read with zero digit octal
        · exact single _ read
        · exact absurd (isDigit_of_isOctal octal) (by simpa using digit)
        · exact single _ read
      all_goals exact single _ read

/-- What is written accords with what it means: they are the same if nothing is escaped, and otherwise what is
written is longer. -/
structure Accord (raw : List Char) (cooked : Option (List Char)) : Prop where
  plain : '\\' ∉ raw → cooked = some raw
  short : ∀ text, cooked = some text → text.length ≤ raw.length
  escaped : ∀ text, cooked = some text → '\\' ∈ raw → text.length < raw.length

namespace Accord

theorem eq_iff {raw : List Char} {cooked : Option (List Char)} (accord : Accord raw cooked) :
    cooked = some raw ↔ '\\' ∉ raw := by
  constructor
  · intro same inside
    exact absurd (accord.escaped raw same inside) (Nat.lt_irrefl _)
  · exact accord.plain

theorem refl {raw : List Char} (plain : '\\' ∉ raw) : Accord raw (some raw) where
  plain _ := rfl
  short text same := by cases same; exact Nat.le_refl _
  escaped _ _ inside := absurd inside plain

theorem of_longer {raw : List Char} {cooked : Option (List Char)} (inside : '\\' ∈ raw)
    (longer : ∀ text, cooked = some text → text.length < raw.length) : Accord raw cooked where
  plain absent := absurd inside absent
  short text same := Nat.le_of_lt (longer text same)
  escaped text same _ := longer text same

theorem append {raw written : List Char} {cooked meant : Option (List Char)} (before : Accord raw cooked)
    (piece : Accord written meant) :
    Accord (raw ++ written) (cooked.bind fun text => meant.map fun more => text ++ more) := by
  have parts (joined : List Char) (same : (cooked.bind fun text => meant.map fun more => text ++ more) = some joined) :
      ∃ text more, cooked = some text ∧ meant = some more ∧ joined.length = text.length + more.length := by
    obtain ⟨text, cookedIs, rest⟩ := Option.bind_eq_some_iff.mp same
    obtain ⟨more, meantIs, rfl⟩ := Option.map_eq_some_iff.mp rest
    exact ⟨text, more, cookedIs, meantIs, List.length_append⟩
  refine ⟨?_, ?_, ?_⟩
  · intro absent
    rw [List.mem_append, not_or] at absent
    rw [before.plain absent.1, piece.plain absent.2]
    rfl
  · intro joined same
    obtain ⟨text, more, cookedIs, meantIs, whole⟩ := parts joined same
    have first := before.short text cookedIs
    have second := piece.short more meantIs
    rw [whole, List.length_append]
    omega
  · intro joined same inside
    obtain ⟨text, more, cookedIs, meantIs, whole⟩ := parts joined same
    have first := before.short text cookedIs
    have second := piece.short more meantIs
    rw [whole, List.length_append]
    rcases List.mem_append.mp inside with inFirst | inSecond
    · have longer := before.escaped text cookedIs inFirst
      omega
    · have longer := piece.escaped more meantIs inSecond
      omega

end Accord

theorem accord_templatePiece {scan : Scan} (more : scan.rest ≠ ['\\']) :
    Accord (templatePiece scan).1 (templatePiece scan).2.1 := by
  unfold templatePiece
  split
  · exact .refl (by simp)
  · exact .of_longer (by simp) (by simp)
  · exact .of_longer (by simp) (by simp)
  · rename_i c rest _ _ starts
    split
    · rename_i meant after found
      have whole : scan.next.rest.length + 1 = scan.rest.length := by
        rw [Scan.rest_next, starts, List.tail_cons]
        rfl
      have bound := length_of_escape found
      obtain ⟨taken, count⟩ : ∃ taken, scan.rest.length - after.rest.length = taken + 1 :=
        ⟨scan.rest.length - after.rest.length - 1, by omega⟩
      refine .of_longer ?_ ?_
      · rw [count, starts, List.take_succ_cons]
        exact List.mem_cons_self
      · rintro text same
        cases same
        rw [List.length_take]
        omega
    · exact .of_longer (by simp) (by simp)
  · exact .refl (by simp)
  · exact .refl (by simp)
  · rename_i c rest _ _ noEscape _ _ starts
    refine .refl ?_
    rw [List.mem_singleton]
    rintro rfl
    cases rest with
    | nil => exact more starts
    | cons next rest => exact noEscape next rest rfl rfl

theorem templateRest_of_rest_eq_nil {scan : Scan} (ends : scan.rest = []) (fuel : Nat) (raw : List Char)
    (cooked : Option (List Char)) : templateRest fuel scan raw cooked = .error .unterminatedString := by
  cases fuel with
  | zero => rfl
  | succ fuel => simp only [templateRest, ends]

theorem accord_templateRest {fuel : Nat} {scan after : Scan} {raw : List Char} {cooked : Option (List Char)}
    {quasi : Quasi} {closes : Bool} (read : templateRest fuel scan raw cooked = .ok (.template quasi closes, after))
    (before : Accord raw.reverse (cooked.map List.reverse)) :
    Accord quasi.raw.toList (quasi.cooked.map String.toList) := by
  -- What has been read so far accords, and each piece adds to both texts something that does.
  induction fuel generalizing scan raw cooked with
  | zero => contradiction
  | succ fuel ih =>
    have texts : Accord (String.ofList raw.reverse).toList
        ((cooked.map fun text => String.ofList text.reverse).map String.toList) := by
      rw [String.toList_ofList, Option.map_map]
      simpa only [Function.comp_def, String.toList_ofList] using before
    unfold templateRest at read
    dsimp only at read
    split at read
    · contradiction
    · cases read
      exact texts
    · cases read
      exact texts
    · -- A backslash at the very end is taken as it is, but then no backtick follows.
      by_cases last : scan.rest = ['\\']
      · have piece : templatePiece scan = (['\\'], some ['\\'], scan.next) := by simp [templatePiece, last]
        have ends : scan.next.rest = [] := by rw [Scan.rest_next, last, List.tail_cons]
        rw [piece, templateRest_of_rest_eq_nil ends] at read
        contradiction
      · refine ih read ?_
        have joined := before.append (accord_templatePiece last)
        rw [List.reverse_append, List.reverse_reverse]
        convert joined using 1
        cases cooked <;> cases (templatePiece scan).2.1 <;> simp

end Lexer

end Syntax

namespace Quasi

def IsRead (quasi : Quasi) : Prop :=
  ∃ scan closes after, Syntax.Lexer.template scan = .ok (.template quasi closes, after)

/-- A stretch of a template means what is written if and only if there is no backslash in it. -/
theorem cooked_eq_raw_iff {quasi : Quasi} (read : quasi.IsRead) :
    quasi.cooked = some quasi.raw ↔ '\\' ∉ quasi.raw.toList := by
  obtain ⟨scan, closes, after, read⟩ := read
  have accord := Syntax.Lexer.accord_templateRest read (.refl (by simp))
  rw [← accord.eq_iff]
  constructor
  · intro same
    rw [same, Option.map_some]
  · intro same
    obtain ⟨text, cooked, equal⟩ := Option.map_eq_some_iff.mp same
    rw [cooked, String.toList_injective equal]

end Quasi
end ScriptLint
