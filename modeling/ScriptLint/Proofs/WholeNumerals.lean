import Mathlib.Data.List.TakeWhile
import Mathlib.Data.Nat.Digits.Defs
import ScriptLint.Json.Reader

/-! How the numbers are written that count as whole. Only digits do, and they are the ones that the number is rendered
with: neither a sign nor a point nor an exponent nor a leading zero is among them. -/

namespace ScriptLint.Json

theorem Cursor.rest_skipWhile (kind : Char → Bool) (cursor : Cursor) :
    (cursor.skipWhile kind).rest = cursor.rest.dropWhile kind := by
  obtain ⟨place, text⟩ := cursor
  change (skipWhile.go kind text place).rest = text.dropWhile kind
  induction text generalizing place with
  | nil => rfl
  | cons c rest ih =>
    rw [skipWhile.go]
    cases is : kind c with
    | true => simp [ih, is]
    | false => simp [is]

theorem Cursor.exists_skipBlanks (cursor : Cursor) :
    ∃ blanks, cursor.rest = blanks ++ cursor.skipBlanks.rest ∧ ∀ c ∈ blanks, isBlank c = true := by
  refine ⟨cursor.rest.takeWhile isBlank, ?_, fun c => List.mem_takeWhile_imp⟩
  rw [skipBlanks, rest_skipWhile, List.takeWhile_append_dropWhile]

namespace Numeral

variable {positive : Bool} {significand : Nat} {offset : Int} {cursor after : Cursor} {value : UInt64}

/-! Behind a point or an exponent the number is read as binary64, whatever its value. -/

theorem finish_ne_natural : finish positive significand offset cursor ≠ .ok (.natural value, after) := by
  unfold finish
  split <;> simp [Cursor.behind]

theorem exponent_ne_natural : exponent positive significand offset cursor ≠ .ok (.natural value, after) := by
  unfold exponent
  dsimp only
  split
  · simp [Cursor.behind]
  · split
    · simp [Cursor.ahead]
    · split
      · exact finish_ne_natural
      · refine iteInduction (motive := (· ≠ _)) ?_ ?_ <;> simp [Cursor.behind]

theorem exponentOrEnd_ne_natural :
    exponentOrEnd positive significand offset cursor ≠ .ok (.natural value, after) := by
  unfold exponentOrEnd
  split
  · exact exponent_ne_natural
  · exact finish_ne_natural

theorem decimals_ne_natural : decimals positive significand offset cursor ≠ .ok (.natural value, after) := by
  unfold decimals
  dsimp only
  split
  · exact exponentOrEnd_ne_natural
  · split
    · split <;> simp [Cursor.ahead]
    · exact exponentOrEnd_ne_natural

theorem natural_of_afterWhole (read : afterWhole positive significand cursor = .ok (.natural value, after)) :
    positive = true ∧ value = significand.toUInt64 ∧ after = cursor := by
  unfold afterWhole at read
  split at read
  · exact absurd read decimals_ne_natural
  · exact absurd read exponent_ne_natural
  · exact absurd read exponent_ne_natural
  · cases positive with
    | true => simp_all
    | false =>
      rw [if_neg Bool.false_ne_true] at read
      split at read <;> cases read

theorem digitChar_of_digit? {c : Char} {digit : Nat} (known : digit? c = some digit) :
    digit < 10 ∧ Nat.digitChar digit = c := by
  unfold digit? at known
  split at known
  · rename_i isDigit
    cases known
    have known : ∀ code < 58, 48 ≤ code → Nat.digitChar (code - 48) = Char.ofNat code := by decide
    have bounds := Char.isDigit_iff_toNat.mp isDigit
    have bounds : 48 ≤ c.toNat ∧ c.toNat < 58 := ⟨bounds.1, Nat.lt_succ_of_le bounds.2⟩
    rw [known _ bounds.2 bounds.1, Char.ofNat_toNat]
    exact ⟨by omega, rfl⟩
  · contradiction

/-- The digits of a significand go on with the digits of the number so far. -/
theorem toDigits_of_significandDigits (text : List Char) (place : Place) (significand count : Nat)
    (started : 0 < significand) :
    ∃ digits, text = digits ++ (significandDigits text place significand count).2.rest ∧
      Nat.toDigits 10 (significandDigits text place significand count).1.1 =
        Nat.toDigits 10 significand ++ digits := by
  fun_induction significandDigits text place significand count with
  | case1 place significand count => exact ⟨[], rfl, by simp⟩
  | case2 c rest place significand count none => exact ⟨[], rfl, by simp⟩
  | case3 c rest place significand count digit known tooLarge => exact ⟨[], rfl, by simp⟩
  | case4 c rest place significand count digit known fits ih =>
    obtain ⟨small, same⟩ := digitChar_of_digit? known
    obtain ⟨digits, parts, total⟩ := ih (by omega)
    refine ⟨c :: digits, congrArg (c :: ·) parts, ?_⟩
    calc
      _ = Nat.toDigits 10 (significand * 10 + digit) ++ digits := total
      _ = (Nat.toDigits 10 significand ++ Nat.toDigits 10 digit) ++ digits := by
        rw [Nat.toDigits_append_toDigits (by decide) started small, Nat.mul_comm]
      _ = Nat.toDigits 10 significand ++ c :: digits := by
        rw [Nat.toDigits_of_lt_base small, same, List.append_assoc, List.singleton_append]

theorem toNat_toUInt64 {number : Nat} (fits : number ≤ largest) : number.toUInt64.toNat = number :=
  UInt64.toNat_ofNat_of_lt' (Nat.lt_of_le_pred (by decide) fits)

theorem significandDigits_le (text : List Char) (place : Place) (significand count : Nat)
    (fits : significand ≤ largest) : (significandDigits text place significand count).1.1 ≤ largest := by
  fun_induction significandDigits text place significand count with
  | case1 | case2 | case3 => exact fits
  | case4 c rest place significand count digit known small ih => exact ih (by omega)

/-- The digits of a significand that starts with no zero are all digits of the number. -/
theorem significandDigits_of_ne_zero {c : Char} (isDigit : c.isDigit = true) (nonzero : c ≠ '0') (rest : List Char)
    (place : Place) :
    c :: rest = Nat.toDigits 10 (significandDigits (c :: rest) place 0 0).1.1 ++
      (significandDigits (c :: rest) place 0 0).2.rest := by
  have begins : digit? c = some (c.toNat - 48) := if_pos isDigit
  obtain ⟨small, same⟩ := digitChar_of_digit? begins
  have started : 0 < c.toNat - 48 := by
    refine Nat.pos_of_ne_zero fun none => nonzero ?_
    rw [← same, none]
    rfl
  have first : significandDigits (c :: rest) place 0 0 = significandDigits rest (place.past c) (c.toNat - 48) 1 := by
    have fits : ¬ largest < c.toNat - 48 := Nat.not_lt.mpr (small.le.trans (by decide))
    simp only [significandDigits, begins, Nat.zero_mul, Nat.zero_add, if_neg fits]
  obtain ⟨digits, parts, total⟩ := toDigits_of_significandDigits rest (place.past c) (c.toNat - 48) 1 started
  rw [first, total, Nat.toDigits_of_lt_base small, same, List.append_assoc, ← parts, List.singleton_append]

theorem toDigits_of_read (read : Numeral.read positive cursor = .ok (.natural value, after)) :
    positive = true ∧ cursor.rest = Nat.toDigits 10 value.toNat ++ after.rest := by
  unfold Numeral.read at read
  split at read
  · cases read
  · rename_i rest starts
    have found : afterWhole positive 0 cursor.next = .ok (.natural value, after) := by
      dsimp only at read
      split at read
      · split at read
        · cases read
        · exact read
      · exact read
    obtain ⟨isPositive, rfl, rfl⟩ := natural_of_afterWhole found
    refine ⟨isPositive, ?_⟩
    simp [Cursor.next, starts]
  · rename_i c rest notZero starts
    split at read
    · dsimp only at read
      split at read
      · split at read
        · exact absurd read decimals_ne_natural
        · exact absurd read exponentOrEnd_ne_natural
      · rename_i isDigit fits
        obtain ⟨isPositive, rfl, rfl⟩ := natural_of_afterWhole read
        refine ⟨isPositive, ?_⟩
        have small := significandDigits_le cursor.rest cursor.place 0 0 (Nat.zero_le _)
        rw [toNat_toUInt64 small, starts]
        exact significandDigits_of_ne_zero isDigit notZero rest cursor.place
    · cases read

end Numeral

namespace Reader

variable {cursor after : Cursor} {value : UInt64}

theorem read_of_number {positive : Bool}
    (read : (Numeral.read positive cursor >>= fun found => .ok (some (Value.number found.1, found.2))) =
      .ok (some (.number (.natural value), after))) :
    Numeral.read positive cursor = .ok (.natural value, after) := by
  cases found : Numeral.read positive cursor with
  | error fault => simp [found, bind, Except.bind] at read
  | ok pair => simp_all [bind, Except.bind, Prod.ext_iff]

theorem toDigits_of_scalar (read : scalar cursor = .ok (some (.number (.natural value), after))) :
    cursor.rest = Nat.toDigits 10 value.toNat ++ after.rest := by
  unfold scalar at read
  dsimp only [bind, Except.bind, pure, Except.pure] at read
  split at read
  -- Only behind a minus sign and at a digit is a number read at all, and the one behind the sign is not natural.
  case h_5 => exact absurd (Numeral.toDigits_of_read (read_of_number read)).1 Bool.false_ne_true
  case h_9 =>
    split at read
    · exact (Numeral.toDigits_of_read (read_of_number read)).2
    · cases read
  case h_1 | h_7 | h_8 => cases read
  all_goals
    split at read
    all_goals cases read

theorem toDigits_of_value {fuel depth : Nat}
    (read : Reader.value fuel depth cursor = .ok (.number (.natural value), after)) :
    cursor.skipBlanks.rest = Nat.toDigits 10 value.toNat ++ after.rest := by
  cases fuel with
  | zero => cases read
  | succ fuel =>
    rw [Reader.value] at read
    dsimp only [bind, Except.bind] at read
    cases known : scalar cursor.skipBlanks with
    | error fault => simp [known] at read
    | ok found =>
      simp only [known] at read
      cases found with
      | some found =>
        cases read
        exact toDigits_of_scalar known
      | none =>
        dsimp only at read
        split at read
        · cases read
        · split at read
          all_goals
            split at read
            all_goals cases read

theorem rest_of_finish (done : finish cursor = .ok ()) : cursor.skipBlanks.rest = [] := by
  unfold finish at done
  dsimp only at done
  split at done
  · assumption
  · cases done

end Reader

theorem Value.ofText_eq_ok_iff (text : String) (value : Value) :
    Value.ofText text = .ok value ↔
      ∃ cursor, Reader.value (Reader.fuelFor (.ofText text)) 0 (.ofText text) = .ok (value, cursor) ∧
        Reader.finish cursor = .ok () := by
  unfold Value.ofText
  dsimp only [bind, Except.bind, pure, Except.pure]
  constructor
  · intro read
    cases found : Reader.value (Reader.fuelFor (.ofText text)) 0 (.ofText text) with
    | error fault => simp [found] at read
    | ok pair =>
      obtain ⟨other, cursor⟩ := pair
      cases last : Reader.finish cursor with
      | error fault => simp [found, last] at read
      | ok done => exact ⟨cursor, by simp_all, last⟩
  · intro ⟨cursor, found, last⟩
    simp [found, last]

/-- A text of a whole number is that number as it is rendered, with nothing but blanks around it. -/
theorem Value.toList_of_ofText_natural {text : String} {value : UInt64}
    (read : Value.ofText text = .ok (.number (.natural value))) :
    ∃ before behind, text.toList = before ++ (Number.natural value).render.toList ++ behind ∧
      (∀ c ∈ before, Cursor.isBlank c = true) ∧ ∀ c ∈ behind, Cursor.isBlank c = true := by
  obtain ⟨cursor, found, last⟩ := (Value.ofText_eq_ok_iff text _).mp read
  obtain ⟨before, start, areBlank⟩ := (Cursor.ofText text).exists_skipBlanks
  obtain ⟨behind, rest, areBlankToo⟩ := cursor.exists_skipBlanks
  rw [Reader.rest_of_finish last, List.append_nil] at rest
  refine ⟨before, behind, ?_, areBlank, areBlankToo⟩
  calc text.toList
    _ = before ++ (Cursor.ofText text).skipBlanks.rest := start
    _ = before ++ (Nat.toDigits 10 value.toNat ++ behind) := by rw [Reader.toDigits_of_value found, rest]
    _ = before ++ (Number.natural value).render.toList ++ behind := by
      rw [← List.append_assoc]
      simp [Number.render, Nat.repr, toString]

end ScriptLint.Json
