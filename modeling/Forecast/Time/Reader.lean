import Forecast.Text.Blank
import Forecast.Time.Text

/-!
# Reading instants

A written time is a date, a letter `T` or a blank, a time of day and an offset, as in RFC 3339.
Blanks may stand before every number and separator, the offset may be the letters `UTC`, and its
hours and minutes need no colon.  A second numbered 60 is a leap second.
-/

namespace Forecast

namespace TimeReader

/-- One expected character after blanks. -/
def separator? (expected : Char) (chars : List Char) : Option (List Char) :=
  match Blank.skip chars with
  | char :: rest => if char = expected then some rest else none
  | [] => none

/-- A number of one to `width` digits after blanks. -/
def number? (width : Nat) (chars : List Char) : Option (Nat × List Char) :=
  match Digits.leading width (Blank.skip chars) with
  | ([], _) => none
  | (digits, rest) => some (Digits.valueOf digits, rest)

/-- A year: up to four digits, or any number of digits after a sign. -/
def year? (chars : List Char) : Option (Int × List Char) :=
  let signed (sign : Int) (rest : List Char) : Option (Int × List Char) :=
    match Digits.leading rest.length rest with
    | ([], _) => none
    | (digits, rest) => some (sign * Digits.valueOf digits, rest)
  match Blank.skip chars with
  | '-' :: rest => signed (-1) rest
  | '+' :: rest => signed 1 rest
  | chars => do
      let (year, rest) ← number? 4 chars
      pure ((year : Int), rest)

/-- A fraction of a second in nanoseconds, zero when there is none.  Digits past the ninth are
dropped. -/
def fraction? (chars : List Char) : Option (Nat × List Char) :=
  match chars with
  | '.' :: rest =>
      match Digits.leading 9 rest with
      | ([], _) => none
      | (digits, rest) =>
          some (Digits.valueOf (digits.rightpad 9 '0'), rest.dropWhile Digits.isDigit)
  | chars => some (0, chars)

/-- Two digits without a blank before them, the first below `limit`. -/
def twoDigits? (limit : Char) (chars : List Char) : Option (Nat × List Char) :=
  match chars with
  | tens :: ones :: rest =>
      if Digits.isDigit tens ∧ Digits.isDigit ones ∧ tens < limit then
        some (Digits.valueOf [tens, ones], rest)
      else none
  | _ => none

/-- Hours and minutes of an offset after its sign, in seconds. -/
def offsetSeconds? (chars : List Char) : Option (Int × List Char) := do
  let (hours, rest) ← twoDigits? ':' chars
  let rest := rest.dropWhile fun char => char = ':' || Blank.isBlank char
  let (minutes, rest) ← twoDigits? '6' rest
  pure (((hours * 3600 + minutes * 60 : Nat) : Int), rest)

/-- An offset from universal time in seconds. -/
def offset? (chars : List Char) : Option (Int × List Char) :=
  match Blank.skip chars with
  | 'Z' :: rest | 'z' :: rest => some (0, rest)
  | '+' :: rest => offsetSeconds? rest
  | '-' :: rest | '\u2212' :: rest => do
      let (seconds, rest) ← offsetSeconds? rest
      pure (-seconds, rest)
  | u :: t :: c :: rest =>
      if [u, t, c].map Char.toUpper = ['U', 'T', 'C'] then some (0, rest) else none
  | _ => none

def date? (chars : List Char) : Option (Date × List Char) := do
  let (year, rest) ← year? chars
  let rest ← separator? '-' rest
  let (month, rest) ← number? 2 rest
  let rest ← separator? '-' rest
  let (day, rest) ← number? 2 rest
  let date : Date := ⟨year, month, day⟩
  if date.isValid then pure (date, rest) else none

/-- Put a date, a time of day and an offset together. -/
def assemble? (date : Date) (hour minute second nanosecond : Nat) (offset : Int) :
    Option Instant :=
  if 23 < hour ∨ 59 < minute ∨ 60 < second ∨ 86400 ≤ offset.natAbs then none
  else Instant.ofClock? ⟨date, hour, minute, second, nanosecond⟩ offset

end TimeReader

open TimeReader in
/-- Read a written time, with nothing but blanks after it. -/
def Instant.ofText? (text : String) : Option Instant := do
  let (date, rest) ← date? text.toList
  let rest ←
    match rest with
    | 'T' :: rest | 't' :: rest | ' ' :: rest => some rest
    | _ => none
  let (hour, rest) ← number? 2 rest
  let rest ← separator? ':' rest
  let (minute, rest) ← number? 2 rest
  let rest ← separator? ':' rest
  let (second, rest) ← number? 2 rest
  let (nanosecond, rest) ← fraction? rest
  let (offset, rest) ← offset? rest
  if Blank.skip rest = [] then assemble? date hour minute second nanosecond offset else none

end Forecast
