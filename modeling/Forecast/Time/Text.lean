import Forecast.Text.Digits
import Forecast.Time.Calendar

/-!
# Text of instants and durations

Instants are written in RFC 3339 with a numeric offset (`rfc3339`), with the letter for universal
time (`zulu`), or in words for messages (`text`).  All three share the date, the time of day and
the fraction: the fewest of 0, 3, 6 or 9 digits that are exact.
-/

namespace Forecast

namespace Date

/-- Year of at least four digits; a year that needs more, or lies before year 0, has a sign. -/
def yearText (year : Int) : String :=
  if 0 ≤ year ∧ year ≤ 9999 then Digits.paddedText 4 year.natAbs
  else (if year < 0 then "-" else "+") ++ Digits.paddedText 4 year.natAbs

/-- Year, month and day with dashes. -/
def text (date : Date) : String :=
  yearText date.year ++ "-" ++ Digits.paddedText 2 date.month ++ "-"
    ++ Digits.paddedText 2 date.day

end Date

namespace Clock

/-- Fraction of a second in thousandths, millionths or billionths, as many as needed. -/
def fractionText (nanosecond : Nat) : String :=
  if nanosecond = 0 then ""
  else if nanosecond % 1000000 = 0 then "." ++ Digits.paddedText 3 (nanosecond / 1000000)
  else if nanosecond % 1000 = 0 then "." ++ Digits.paddedText 6 (nanosecond / 1000)
  else "." ++ Digits.paddedText 9 nanosecond

/-- Hour, minute, second and fraction. -/
def timeText (clock : Clock) : String :=
  Digits.paddedText 2 clock.hour ++ ":" ++ Digits.paddedText 2 clock.minute ++ ":"
    ++ Digits.paddedText 2 clock.second ++ fractionText clock.nanosecond

/-- RFC 3339 with the offset of universal time in digits. -/
def rfc3339 (clock : Clock) : String :=
  clock.date.text ++ "T" ++ clock.timeText ++ "+00:00"

/-- RFC 3339 with the letter for universal time. -/
def zulu (clock : Clock) : String :=
  clock.date.text ++ "T" ++ clock.timeText ++ "Z"

end Clock

namespace Instant

/-- RFC 3339 text of an instant. -/
def rfc3339 (instant : Instant) : String := instant.clock.rfc3339

/-- RFC 3339 text of an instant with the letter for universal time. -/
def zulu (instant : Instant) : String := instant.clock.zulu

/-- Text of an instant in messages. -/
def text (instant : Instant) : String :=
  instant.clock.date.text ++ " " ++ instant.clock.timeText ++ " UTC"

end Instant

namespace Duration

/-- The digits without the zeros at their end. -/
def trimZeros (digits : List Char) : List Char :=
  (digits.reverse.dropWhile (· == '0')).reverse

/-- ISO 8601 text in seconds, or in days when there is nothing to count. -/
def text (duration : Duration) : String :=
  let total := duration.nanoseconds.natAbs
  let whole := total / 1000000000
  let rest := total % 1000000000
  if total = 0 then "P0D"
  else
    (if duration.nanoseconds < 0 then "-PT" else "PT") ++ Digits.text whole
      ++ (if rest = 0 then "" else "." ++ String.ofList (trimZeros (Digits.padded 9 rest)))
      ++ "S"

/-- Text of a step that may be absent, in whole seconds toward the past and further nanoseconds. -/
def optionText : Option Duration → String
  | none => "None"
  | some duration =>
      "Some(TimeDelta \x7b secs: " ++ Digits.signedText duration.seconds ++ ", nanos: "
        ++ Digits.text duration.subsecond ++ " \x7d)"

end Duration

end Forecast
