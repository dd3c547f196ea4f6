import ScriptLint.Decimal.Shortest

/-! Writing a binary64 number as a decimal. -/

namespace ScriptLint.Decimal

structure Notation where
  least : Int
  greatest : Int
  plus : String
  deriving Repr

def zeros (count : Nat) : String := String.ofList (List.replicate count '0')

def Notation.write (style : Notation) (number : Scaled) : String :=
  let digits := (toString number.significand).toList
  let first := number.exponent + digits.length - 1
  if style.least ≤ first ∧ first ≤ style.greatest then
    if 0 ≤ number.exponent then String.ofList digits ++ zeros number.exponent.toNat ++ ".0"
    else if 0 ≤ first then
      String.ofList (digits.take (first.toNat + 1)) ++ "." ++ String.ofList (digits.drop (first.toNat + 1))
    else "0." ++ zeros (-first - 1).toNat ++ String.ofList digits
  else
    let mantissa := match digits with
      | lead :: more@(_ :: _) => String.ofList (lead :: '.' :: more)
      | _ => String.ofList digits
    mantissa ++ "e" ++ (if 0 ≤ first then style.plus else "") ++ toString first

/-- Numbers from `0.00001` up to below `10 ^ 16` are written plainly, and `10 ^ 16` is `1e+16`. -/
def plain : Notation := ⟨-5, 15, "+"⟩

def Notation.render (style : Notation) (number : Float) : String :=
  let bits := number.toBits.toNat
  let sign := if Nat.pow 2 63 ≤ bits then "-" else ""
  let magnitude := bits % Nat.pow 2 63
  sign ++ (if magnitude = 0 then "0.0" else style.write (shortest magnitude))

end ScriptLint.Decimal
