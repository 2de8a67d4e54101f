import Forecast.Binary64.Text

/-!
# Reading numbers

The number nearest to a decimal.  The decimal is a quotient of natural numbers, which is rounded to
a multiple of a power of two: the power is chosen so that 53 bits remain, or fewer near zero, and a
half goes to the even neighbour.  Magnitudes beyond the largest number become infinite.
-/

namespace Forecast.Binary64

/-- A quotient rounded to the nearest whole number, a half to the even neighbour. -/
def nearestQuotient (dividend divisor : Nat) : Nat :=
  let quotient := dividend / divisor
  let twice := 2 * (dividend % divisor)
  if twice < divisor ∨ twice = divisor ∧ quotient % 2 = 0 then quotient else quotient + 1

/-- The greatest power of two that is not above a positive quotient.  The bit lengths of its parts
tell the power up to one. -/
def leadingPower (dividend divisor : Nat) : Int :=
  let guess := (dividend.log2 : Int) - divisor.log2
  if divisor <<< guess.toNat ≤ dividend <<< (-guess).toNat then guess else guess - 1

/-- Magnitude of the number nearest to a positive quotient.  Magnitudes of neighbouring numbers
differ by one, so a significand that is rounded up to 54 bits gives the next exponent field. -/
def nearestMagnitude (dividend divisor : Nat) : Nat :=
  let power := max (leadingPower dividend divisor - 52) (-1074)
  let significand :=
    nearestQuotient (dividend <<< (-power).toNat) (divisor <<< power.toNat)
  min ((power + 1074).toNat * hiddenBit + significand) infinite

/-- The number with a sign and a magnitude. -/
def ofMagnitude (isNegative : Bool) (magnitude : Nat) : Binary64 :=
  ⟨UInt64.ofNat (magnitude + if isNegative then signBit else 0)⟩

/-- The number nearest to a decimal.  A decimal whose leading digit lies above the power 309 of ten
is infinite, and one whose leading digit lies below the power -325 is zero. -/
def ofDecimal (isNegative : Bool) (decimal : Decimal) : Binary64 :=
  ofMagnitude isNegative <|
    if decimal.coefficient = 0 ∨ decimal.leadingExponent < -325 then 0
    else if 309 < decimal.leadingExponent then infinite
    else
      nearestMagnitude (decimal.coefficient * Nat.pow 10 decimal.exponent.toNat)
        (Nat.pow 10 (-decimal.exponent).toNat)

/-- An exponent of ten behind its letter, with or without a sign. -/
def tenExponent? (chars : List Char) : Option Int :=
  let unsigned (sign : Int) (digits : List Char) : Option Int :=
    if digits ≠ [] ∧ digits.all Digits.isDigit then some (sign * Digits.valueOf digits) else none
  match chars with
  | '-' :: digits => unsigned (-1) digits
  | '+' :: digits => unsigned 1 digits
  | digits => unsigned 1 digits

/-- A decimal without a sign: digits with or without a point before, between or behind them, and an
exponent of ten where the letter `e` follows. -/
def decimal? (chars : List Char) : Option Decimal := do
  let (whole, rest) := Digits.leading chars.length chars
  let (places, rest) :=
    match rest with
    | '.' :: rest => Digits.leading rest.length rest
    | rest => ([], rest)
  let exponent ←
    match rest with
    | [] => some 0
    | letter :: rest => if letter.toLower = 'e' then tenExponent? rest else none
  if whole ++ places = [] then none
  else pure ⟨Digits.valueOf (whole ++ places), exponent - places.length⟩

/-- Read a number with or without a sign: a decimal, or a name of infinity or of no number in any
case of letters. -/
def ofText? (text : String) : Option Binary64 :=
  let (isNegative, chars) :=
    match text.toList with
    | '-' :: chars => (true, chars)
    | '+' :: chars => (false, chars)
    | chars => (false, chars)
  let name := String.ofList (chars.map Char.toLower)
  if name = "inf" ∨ name = "infinity" then some (ofMagnitude isNegative infinite)
  else if name = "nan" then some nan
  else (decimal? chars).map (ofDecimal isNegative)

/-- A half goes to the even neighbour. -/
example : nearestQuotient 5 2 = 2 ∧ nearestQuotient 7 2 = 4 ∧ nearestQuotient 8 3 = 3 := by decide

/-- The least positive number, and half of it. -/
example :
    ofDecimal false ⟨5, -324⟩ = ⟨1⟩ ∧ ofDecimal false ⟨2, -324⟩ = zero := by decide +kernel

/-- A magnitude half way beyond the largest number is infinite. -/
example :
    ofDecimal true ⟨17976931348623158080, 289⟩ = negativeInfinity
      ∧ ofDecimal false ⟨17976931348623158079, 289⟩ = ⟨0x7FEFFFFFFFFFFFFF⟩ := by decide +kernel

end Forecast.Binary64
