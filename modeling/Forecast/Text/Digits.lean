/-!
# Decimal digits

Unsigned decimal numerals, plain or padded with zeros to a fixed width, and the reading of digit
runs from the front of a text.
-/

namespace Forecast.Digits

/-- The decimal numeral of a natural number, without leading zeros. -/
def numeral (value : Nat) : List Char := Nat.toDigits 10 value

/-- The numeral with zeros in front, at least `width` characters wide. -/
def padded (width value : Nat) : List Char :=
  List.replicate (width - (numeral value).length) '0' ++ numeral value

/-- The decimal numeral as text. -/
def text (value : Nat) : String := String.ofList (numeral value)

/-- The padded numeral as text. -/
def paddedText (width value : Nat) : String := String.ofList (padded width value)

/-- The numeral of an integer, with a minus sign in front of a negative one. -/
def signedText (value : Int) : String :=
  if value < 0 then "-" ++ text value.natAbs else text value.natAbs

/-- Whether a character is one of the ten ASCII digits. -/
def isDigit (char : Char) : Bool := decide ('0' ≤ char) && decide (char ≤ '9')

/-- Value of an ASCII digit. -/
def value (char : Char) : Nat := char.toNat - '0'.toNat

/-- Value of a run of digits, most significant first. -/
def valueOf (digits : List Char) : Nat :=
  digits.foldl (fun total char => 10 * total + value char) 0

/-- The leading digits, at most `limit` of them, and what follows. -/
def leading (limit : Nat) (chars : List Char) : List Char × List Char :=
  let run := (chars.take limit).takeWhile isDigit
  (run, chars.drop run.length)

end Forecast.Digits
