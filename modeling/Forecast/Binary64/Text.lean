import Forecast.Binary64.Shortest
import Forecast.Text.Digits

/-!
# Text of numbers

Two layouts of the shortest decimal.  `text` is always positional and gives integers no fraction.
`listText` writes a bracketed list, where integers keep a fraction `.0` and magnitudes below
`1e-4` or from `1e16` on have an exponent.
-/

namespace Forecast

namespace Decimal

/-- Digits of the coefficient. -/
def digits (decimal : Decimal) : List Char := Digits.numeral decimal.coefficient

/-- Power of ten of the leading digit. -/
def leadingExponent (decimal : Decimal) : Int :=
  decimal.exponent + decimal.digits.length - 1

/-- Positional digits: zeros up to the point, or a point inside or before the digits. -/
def positional (decimal : Decimal) : List Char :=
  let digits := decimal.digits
  let places := (-decimal.exponent).toNat
  if places = 0 then
    digits ++ List.replicate decimal.exponent.toNat '0'
  else if places < digits.length then
    digits.take (digits.length - places) ++ '.' :: digits.drop (digits.length - places)
  else
    '0' :: '.' :: List.replicate (places - digits.length) '0' ++ digits

/-- Digits with a point after the first and the power of ten of the first. -/
def scientific (decimal : Decimal) : List Char :=
  let point :=
    match decimal.digits with
    | first :: second :: rest => first :: '.' :: second :: rest
    | digits => digits
  point ++ 'e' :: (Digits.signedText decimal.leadingExponent).toList

end Decimal

namespace Binary64

/-- Write the sign, then the magnitude of a number that is not a NaN. -/
def signed (number : Binary64) (magnitude : List Char) : String :=
  String.ofList (if number.isNegative then '-' :: magnitude else magnitude)

/-- Positional text of a number; an integer has no fraction, and a zero keeps its sign. -/
def text (number : Binary64) : String :=
  if number.isNaN then "NaN"
  else if !number.isFinite then number.signed ['i', 'n', 'f']
  else if number.magnitude = 0 then number.signed ['0']
  else number.signed number.shortest.positional

/-- Text of a number inside a list. -/
def itemText (number : Binary64) : String :=
  if !number.isFinite then number.text
  else if number.magnitude = 0 then number.signed ['0', '.', '0']
  else
    let decimal := number.shortest
    if decimal.leadingExponent < -4 ∨ 16 ≤ decimal.leadingExponent then
      number.signed decimal.scientific
    else if 0 ≤ decimal.exponent then
      number.signed (decimal.positional ++ ['.', '0'])
    else
      number.signed decimal.positional

/-- Text of a list of numbers. -/
def listText (numbers : List Binary64) : String :=
  "[" ++ ", ".intercalate (numbers.map itemText) ++ "]"

end Binary64

end Forecast
