import ReplyActions.Number.Decimal
import ReplyActions.Text.LetterCase

/-!
# Decimal numbers in binary

A decimal number with a point and an exponent, and the nearest double precision number (IEEE 754
`binary64`) as its 64 bits. A tie goes to the even neighbour; what lies beyond the largest finite
number becomes infinite.
-/

namespace ReplyActions.Number

/-- A decimal number: the digits' value times a power of ten, and the sign. -/
structure Decimal where
  negative : Bool
  digits : Nat
  exponent : Int
deriving DecidableEq

/-! ### Reading -/

/-- The exponent part of a number, after its digits: nothing, or the letter e, an optional sign
and digits. -/
def exponentOf? : List Char → Option Int
  | [] => some 0
  | 'e' :: rest => intOf? rest
  | 'E' :: rest => intOf? rest
  | _ => none

/-- A number without a sign: digits with at most one point, then the exponent part. -/
def unsignedDecimal? (negative : Bool) (text : List Char) : Option Decimal :=
  let whole := text.takeWhile isDigit
  let (places, rest) :=
    match text.dropWhile isDigit with
    | '.' :: after => (after.takeWhile isDigit, after.dropWhile isDigit)
    | after => ([], after)
  if whole.isEmpty && places.isEmpty then none
  else (exponentOf? rest).map fun e =>
    ⟨negative, natOfDigits (whole ++ places), e - (places.length : Int)⟩

def decimalOf? : List Char → Option Decimal
  | '-' :: rest => unsignedDecimal? true rest
  | '+' :: rest => unsignedDecimal? false rest
  | text => unsignedDecimal? false text

/-! ### Rounding -/

/-- The quotient rounded to the nearest integer, a tie to the even one. -/
def roundedQuotient (numerator denominator : Nat) : Nat :=
  let q := numerator / denominator
  let twiceRest := 2 * (numerator % denominator)
  if twiceRest < denominator then q
  else if twiceRest = denominator then q + q % 2
  else q + 1

/-- The position of the highest bit of `numerator / denominator`, or one above or below it. -/
def exponentGuess (numerator denominator : Nat) : Int :=
  (Nat.log2 numerator : Int) - (Nat.log2 denominator : Int)

/-- The significand of `numerator / denominator` in units of `2 ^ unit`. -/
def significandAt (numerator denominator : Nat) (unit : Int) : Nat :=
  if 0 ≤ unit then roundedQuotient numerator (denominator * Nat.pow 2 unit.toNat)
  else roundedQuotient (numerator * Nat.pow 2 (-unit).toNat) denominator

/-- The power of two that the last bit of `numerator / denominator` stands for: 53 bits are kept,
fewer where the number is too small for that. -/
def unitOf (numerator denominator : Nat) : Int :=
  let guess := exponentGuess numerator denominator
  -- the guess is one too high exactly where the quotient is below `2 ^ guess`
  let below :=
    if 0 ≤ guess then decide (numerator < denominator * Nat.pow 2 guess.toNat)
    else decide (numerator * Nat.pow 2 (-guess).toNat < denominator)
  max ((if below then guess - 1 else guess) - 52) (-1074)

/-- The bits, without the sign, of the double nearest to a positive quotient; `none` if that is
infinite. Carrying into the next power of two carries into the exponent's bits by itself. -/
def magnitudeBits? (numerator denominator : Nat) : Option Nat :=
  let unit := unitOf numerator denominator
  let significand := significandAt numerator denominator unit
  -- below `2 ^ 52` the number is subnormal and its exponent field is zero
  let bits :=
    if significand < Nat.pow 2 52 then significand
    else (unit + 1074).toNat * Nat.pow 2 52 + significand
  if bits < 2047 * Nat.pow 2 52 then some bits else none

/-- Decimal exponents beyond these bounds give infinity or zero whatever the digits are. -/
def largestExponent : Int := 400

/-- The 64 bits of the double nearest to a decimal number, if that is finite. -/
def Decimal.bits? (d : Decimal) : Option Nat :=
  let sign := if d.negative then Nat.pow 2 63 else 0
  let magnitude :=
    if d.digits = 0 then some 0
    else
      -- an exponent out of all proportion must not be turned into a power of ten
      let top := d.exponent + ((natDigits d.digits).length : Int)
      if largestExponent < top then none
      else if top < -largestExponent then some 0
      else if 0 ≤ d.exponent then magnitudeBits? (d.digits * Nat.pow 10 d.exponent.toNat) 1
      else magnitudeBits? d.digits (Nat.pow 10 (-d.exponent).toNat)
  magnitude.map (sign + ·)

def finiteBits? (text : String) : Option Nat := (decimalOf? text.toList).bind Decimal.bits?

/-- Sixteen small hexadecimal digits. -/
def hexadecimal16 (n : Nat) : String :=
  let digits := Nat.toDigits 16 n
  String.ofList (List.replicate (16 - digits.length) '0' ++ digits)

end ReplyActions.Number
