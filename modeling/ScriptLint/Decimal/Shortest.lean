/-! The decimal with the fewest digits that reads back as a given binary number; among those of one
length the nearest, a tie going to the even last digit. -/

namespace ScriptLint.Decimal

structure Scaled where
  significand : Nat
  exponent : Int
  deriving DecidableEq, Repr

/-- A positive number `value / unit` with the ends of the interval of numbers that round to it, in the
same unit. The ends belong to the interval if it is `closed`. -/
structure Rounding where
  low : Nat
  value : Nat
  high : Nat
  unit : Nat
  closed : Bool
  deriving Repr

namespace Rounding

def ofBits (bits : Nat) : Rounding :=
  let fraction := bits % Nat.pow 2 52
  let biased := bits / Nat.pow 2 52
  let mantissa := if biased = 0 then fraction else fraction + Nat.pow 2 52
  let power := if biased = 0 then 1 else biased
  -- right below a power of two the numbers are twice as dense
  let below := if fraction = 0 ∧ 1 < biased then 1 else 2
  let scale := Nat.pow 2 (power - 1077)
  ⟨(4 * mantissa - below) * scale, 4 * mantissa * scale, (4 * mantissa + 2) * scale,
    Nat.pow 2 (1077 - power), mantissa % 2 = 0⟩

def holds (r : Rounding) (num den : Nat) : Bool :=
  if r.closed then r.low * den ≤ num * r.unit && num * r.unit ≤ r.high * den
  else r.low * den < num * r.unit && num * r.unit < r.high * den

def leading (r : Rounding) : Nat → Int → Int
  | 0, guess => guess
  | fuel + 1, guess =>
    if r.value * Nat.pow 10 (-(guess + 1)).toNat < r.unit * Nat.pow 10 (guess + 1).toNat then guess
    else leading r fuel (guess + 1)

def onGrid (r : Rounding) (exponent : Int) : Option Nat :=
  let up := Nat.pow 10 exponent.toNat
  let down := Nat.pow 10 (-exponent).toNat
  let step := r.unit * up
  let below := r.value * down / step
  let remainder := r.value * down % step
  match r.holds (below * up) down, r.holds ((below + 1) * up) down with
  | false, false => none
  | true, false => some below
  | false, true => some (below + 1)
  -- both neighbours read back: the nearer one counts, and at a tie the even one
  | true, true =>
    if 2 * remainder < step then some below
    else if step < 2 * remainder then some (below + 1)
    else if below % 2 = 0 then some below else some (below + 1)

def search (r : Rounding) (first : Int) : Nat → Nat → Scaled
  | 0, digits => ⟨(r.onGrid (first - digits)).getD 0, first - digits⟩
  | fuel + 1, digits =>
    match r.onGrid (first - digits) with
    | some significand => ⟨significand, first - digits⟩
    | none => search r first fuel (digits + 1)

end Rounding

def Scaled.trim : Nat → Scaled → Scaled
  | 0, number => number
  | fuel + 1, number =>
    if number.significand ≠ 0 ∧ number.significand % 10 = 0 then
      trim fuel ⟨number.significand / 10, number.exponent + 1⟩
    else number

def shortest (bits : Nat) : Scaled :=
  let r := Rounding.ofBits bits
  (r.search (r.leading 700 (-330)) 17 0).trim 20

end ScriptLint.Decimal
