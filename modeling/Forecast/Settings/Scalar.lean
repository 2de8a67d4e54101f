import Forecast.Binary64.Reader
import Forecast.Settings.Document
import Forecast.Time.Calendar

/-!
# Scalars of documents

Texts in quotes, numbers, truth values, dates and times of day as they are written in settings
documents.
-/

namespace Forecast.Scalar

/-- Characters that a text, a comment or a line cannot hold; a tabulator is none of them. -/
def isControl (char : Char) : Bool :=
  (decide (char.toNat < 32) && char != '\t') || char.toNat == 127

/-- A blank within a line. -/
def isBlank (char : Char) : Bool := char == ' ' || char == '\t'

/-- The line break at the front of a text, if there is one, is taken off. -/
def lineBreak? : List Char → Option (List Char)
  | '\n' :: rest => some rest
  | '\r' :: '\n' :: rest => some rest
  | _ => none

/-- Skip blanks and line breaks. -/
def skipSpace : List Char → List Char
  | ' ' :: rest | '\t' :: rest | '\n' :: rest | '\r' :: '\n' :: rest => skipSpace rest
  | chars => chars

/-- Value of a digit in a base up to sixteen. -/
def digitValue (char : Char) : Nat :=
  if Digits.isDigit char then Digits.value char else char.toLower.toNat - 'a'.toNat + 10

/-- Whether a character is a hexadecimal digit. -/
def isHexadecimal (char : Char) : Bool :=
  Digits.isDigit char || ['a', 'b', 'c', 'd', 'e', 'f'].contains char.toLower

/-- Value of digits in a base. -/
def valueIn (base : Nat) (digits : List Char) : Nat :=
  digits.foldl (fun total digit => base * total + digitValue digit) 0

/-- The character with a code in hexadecimal digits. -/
def coded? (digits : List Char) : Option Char :=
  let code := valueIn 16 digits
  if digits.all isHexadecimal ∧ code.isValidChar then some (Char.ofNat code) else none

/-- The character that a letter after a backslash stands for. -/
def escaped? : Char → Option Char
  | 'b' => some (Char.ofNat 8)
  | 't' => some '\t'
  | 'n' => some '\n'
  | 'f' => some (Char.ofNat 12)
  | 'r' => some '\r'
  | '"' => some '"'
  | '\\' => some '\\'
  | _ => none

/-- One character behind a backslash, with what follows it. -/
def escape? : List Char → Option (Char × List Char)
  | 'u' :: rest => do
      if rest.length < 4 then none else pure (← coded? (rest.take 4), rest.drop 4)
  | 'U' :: rest => do
      if rest.length < 8 then none else pure (← coded? (rest.take 8), rest.drop 8)
  | char :: rest => do pure (← escaped? char, rest)
  | [] => none

/-- The rest of a text in double quotes, read in at most `fuel` steps. -/
def quoted? : Nat → List Char → Option (List Char × List Char)
  | 0, _ => none
  | fuel + 1, chars =>
      match chars with
      | [] => none
      | '"' :: rest => some ([], rest)
      | '\\' :: rest => do
          let (char, rest) ← escape? rest
          let (text, rest) ← quoted? fuel rest
          pure (char :: text, rest)
      | char :: rest =>
          if isControl char then none
          else do
            let (text, rest) ← quoted? fuel rest
            pure (char :: text, rest)

/-- The rest of a text in single quotes, which has no escapes. -/
def literal? (chars : List Char) : Option (List Char × List Char) :=
  let text := chars.takeWhile fun char => char != '\'' && !isControl char
  match chars.drop text.length with
  | '\'' :: rest => some (text, rest)
  | _ => none

/-- The end of a text in three quotes, which may hold up to two quotes more in front. -/
def tripleEnd? (quote : Char) (chars : List Char) : Option (List Char × List Char) :=
  let quotes := (chars.takeWhile (· == quote)).length
  if quotes < 3 then none
  else
    let inside := Nat.min (quotes - 3) 2
    some (List.replicate inside quote, chars.drop (inside + 3))

/-- The rest of a text in three quotes, read in at most `fuel` steps.  In double quotes a backslash
at the end of a line joins the line with what comes next. -/
def triple? (quote : Char) : Nat → List Char → Option (List Char × List Char)
  | 0, _ => none
  | fuel + 1, chars =>
      match tripleEnd? quote chars with
      | some found => some found
      | none =>
          match chars with
          | [] => none
          | char :: rest =>
              if char == '\\' && quote == '"' then
                match lineBreak? (rest.dropWhile isBlank) with
                | some next => triple? quote fuel (skipSpace next)
                | none => do
                    let (char, rest) ← escape? rest
                    let (text, rest) ← triple? quote fuel rest
                    pure (char :: text, rest)
              else
                match lineBreak? chars with
                | some next => do
                    let (text, rest) ← triple? quote fuel next
                    pure ('\n' :: text, rest)
                | none =>
                    if isControl char then none
                    else do
                      let (text, rest) ← triple? quote fuel rest
                      pure (char :: text, rest)

/-- A text in quotes of any kind, with what follows it. -/
def text? (chars : List Char) : Option (List Char × List Char) :=
  let withoutBreak (chars : List Char) : List Char := (lineBreak? chars).getD chars
  match chars with
  | '"' :: '"' :: '"' :: rest => triple? '"' (rest.length + 1) (withoutBreak rest)
  | '\'' :: '\'' :: '\'' :: rest => triple? '\'' (rest.length + 1) (withoutBreak rest)
  | '"' :: rest => quoted? (rest.length + 1) rest
  | '\'' :: rest => literal? rest
  | _ => none

/-- Digits with single underscores between them, read without these. -/
def grouped? (isDigit : Char → Bool) : List Char → Option (List Char)
  | [] => none
  | [last] => if isDigit last then some [last] else none
  | first :: '_' :: rest =>
      if isDigit first then do pure (first :: (← grouped? isDigit rest)) else none
  | first :: rest =>
      if isDigit first then do pure (first :: (← grouped? isDigit rest)) else none

/-- Take off a sign. -/
def unsigned : List Char → Int × List Char
  | '-' :: rest => (-1, rest)
  | '+' :: rest => (1, rest)
  | chars => (1, chars)

/-- A decimal numeral without leading zeros. -/
def natural? (chars : List Char) : Option Nat := do
  let digits ← grouped? Digits.isDigit chars
  match digits with
  | '0' :: _ :: _ => none
  | digits => pure (valueIn 10 digits)

/-- A whole number of 64 bits, in decimal, hexadecimal, octal or binary digits. -/
def integer? (chars : List Char) : Option Int := do
  let value : Int ←
    match chars with
    | '0' :: 'x' :: rest => do pure (valueIn 16 (← grouped? isHexadecimal rest) : Int)
    | '0' :: 'o' :: rest => do
        pure (valueIn 8 (← grouped? (fun char => decide ('0' ≤ char ∧ char ≤ '7')) rest) : Int)
    | '0' :: 'b' :: rest => do
        pure (valueIn 2 (← grouped? (fun char => char == '0' || char == '1') rest) : Int)
    | chars => do
        let (sign, digits) := unsigned chars
        pure (sign * (← natural? digits))
  if Int64.minValue.toInt ≤ value ∧ value ≤ Int64.maxValue.toInt then pure value else none

/-- Whether a token is a number with a fraction or an exponent. -/
def isDecimal (chars : List Char) : Bool :=
  let digits := (unsigned chars).2
  let whole := digits.takeWhile fun char => char != '.' && char.toLower != 'e'
  let rest := digits.drop whole.length
  let isExponent (chars : List Char) : Bool := (grouped? Digits.isDigit (unsigned chars).2).isSome
  (natural? whole).isSome &&
    match rest with
    | '.' :: rest =>
        let places := rest.takeWhile fun char => char.toLower != 'e'
        (grouped? Digits.isDigit places).isSome &&
          match rest.drop places.length with
          | [] => true
          | _ :: exponent => isExponent exponent
    | _ :: exponent => isExponent exponent
    | [] => false

/-- A number with a fraction or an exponent, or one that is infinite or no number by its name.
Decimals above the largest number are refused; those below the least are minus infinity. -/
def decimal? (chars : List Char) : Option Binary64 := do
  let value ← Binary64.ofText? (String.ofList (chars.filter (· != '_')))
  let name := String.ofList (unsigned chars).2
  if name = "inf" ∨ name = "nan" then pure value
  else if isDecimal chars ∧ value ≠ Binary64.infinity then pure value
  else none

/-- What follows an expected character. -/
def after? (expected : Char) : List Char → Option (List Char)
  | [] => none
  | char :: rest => if char = expected then some rest else none

/-- A number of two digits within bounds, with what follows it. -/
def pair? (least greatest : Nat) (chars : List Char) : Option (Nat × List Char) :=
  match Digits.leading 2 chars with
  | ([tens, units], rest) =>
      let value := Digits.valueOf [tens, units]
      if least ≤ value ∧ value ≤ greatest then some (value, rest) else none
  | _ => none

/-- What follows a date of the calendar, which has a year of four digits. -/
def afterDate? (chars : List Char) : Option (List Char) := do
  let (year, rest) := Digits.leading 4 chars
  let (month, rest) ← pair? 1 12 (← after? '-' rest)
  let (day, rest) ← pair? 1 31 (← after? '-' rest)
  let date : Date := ⟨Digits.valueOf year, month, day⟩
  if year.length = 4 ∧ date.isValid then pure rest else none

/-- What follows a time of day, which may be in a leap second and have a fraction. -/
def afterTime? (chars : List Char) : Option (List Char) := do
  let (_, rest) ← pair? 0 23 chars
  let (_, rest) ← pair? 0 59 (← after? ':' rest)
  let (_, rest) ← pair? 0 60 (← after? ':' rest)
  match rest with
  | '.' :: places =>
      match Digits.leading places.length places with
      | ([], _) => none
      | (_, rest) => pure rest
  | rest => pure rest

/-- What follows an offset from universal time, if there is one. -/
def afterOffset? : List Char → Option (List Char)
  | 'Z' :: rest | 'z' :: rest => some rest
  | '+' :: rest | '-' :: rest => do
      let (_, rest) ← pair? 0 23 rest
      let (_, rest) ← pair? 0 59 (← after? ':' rest)
      pure rest
  | rest => some rest

/-- What follows a date, a time of day, or a date with a time of day.  A blank may stand between
these two, and one behind a date alone is left. -/
def afterMoment? (chars : List Char) : Option (List Char) :=
  match afterDate? chars with
  | some (separator :: rest) =>
      if ['T', 't', ' '].contains separator then
        match afterTime? rest with
        | some rest => afterOffset? rest
        | none => some (separator :: rest)
      else some (separator :: rest)
  | some [] => some []
  | none => afterTime? chars

/-- The value of a token without quotes. -/
def token? (chars : List Char) : Option Node :=
  if chars = ['t', 'r', 'u', 'e'] then some (.truth true)
  else if chars = ['f', 'a', 'l', 's', 'e'] then some (.truth false)
  else
    match integer? chars with
    | some value => some (.integer value)
    | none => (decimal? chars).map .decimal

/-- Whether a character may stand in a token. -/
def isToken (char : Char) : Bool := char.isAlphanum || ['+', '-', '_', '.', ':'].contains char

/-- A value without quotes, with what follows it. -/
def unquoted? (chars : List Char) : Option (Node × List Char) :=
  match afterMoment? chars with
  | some rest => some (.moment (String.ofList (chars.take (chars.length - rest.length))), rest)
  | none =>
      let token := chars.takeWhile isToken
      (token? token).map fun node => (node, chars.drop token.length)

/-- A date is read with the time of day behind a blank, and without a blank that ends it. -/
example :
    afterMoment? "1979-05-27 07:32:60.5-08:00,".toList = some [','] ∧
      afterMoment? "1979-05-27 #".toList = some [' ', '#'] ∧
      afterMoment? "2023-02-29".toList = none := by decide +kernel

end Forecast.Scalar
