import Forecast.Text.Digits

/-!
# Writing texts into documents

A text is written in double quotes if it needs no escape there, else in single quotes, else in three
double or single quotes where these need no escape, and otherwise with escapes.
-/

namespace Forecast.DocumentText

/-- Whether a character can only be written as an escape. -/
def needsCode (char : Char) : Bool :=
  (decide (char.toNat < 32) && char != '\t' && char != '\n') || char.toNat == 127

/-- Length of the longest run of a character. -/
def longestRun (char : Char) (chars : List Char) : Nat :=
  let step (state : Nat × Nat) (other : Char) : Nat × Nat :=
    if other == char then (state.1 + 1, Nat.max state.2 (state.1 + 1)) else (0, state.2)
  (chars.foldl step (0, 0)).2

/-- Four hexadecimal digits of a code. -/
def code (char : Char) : List Char :=
  let digits := (Nat.toDigits 16 char.toNat).map Char.toUpper
  List.replicate (4 - digits.length) '0' ++ digits

/-- A character inside double quotes. -/
def escape (char : Char) : List Char :=
  match char with
  | '"' => ['\\', '"']
  | '\\' => ['\\', '\\']
  | '\t' => ['\\', 't']
  | '\n' => ['\\', 'n']
  | '\r' => ['\\', 'r']
  | char =>
      if char.toNat = 8 then ['\\', 'b']
      else if char.toNat = 12 then ['\\', 'f']
      else if needsCode char then '\\' :: 'u' :: code char
      else [char]

/-- Characters inside three double quotes, of which two in a row need no escape. -/
def escapeLines : Nat → List Char → List Char
  | _, [] => []
  | quotes, '"' :: rest =>
      if quotes < 2 then '"' :: escapeLines (quotes + 1) rest
      else '\\' :: '"' :: escapeLines 0 rest
  | _, '\n' :: rest => '\n' :: escapeLines 0 rest
  | _, char :: rest => escape char ++ escapeLines 0 rest

/-- A text between quotes. -/
def write (text : String) : String :=
  let chars := text.toList
  let hasCode := chars.any needsCode
  let hasLines := chars.contains '\n'
  let hasBackslash := chars.contains '\\'
  let doubles := longestRun '"' chars
  let singles := longestRun '\'' chars
  let opening := if hasLines then ['\n'] else []
  let threeDouble := List.replicate 3 '"'
  let threeSingle := List.replicate 3 '\''
  let inLines := String.ofList (threeDouble ++ opening ++ escapeLines 0 chars ++ threeDouble)
  if !hasCode && !hasBackslash && doubles == 0 && !hasLines then
    String.ofList ('"' :: chars.flatMap escape ++ ['"'])
  else if !hasCode && singles == 0 && !hasLines then
    String.ofList ('\'' :: chars ++ ['\''])
  else if !hasCode && !hasBackslash && doubles ≤ 2 then inLines
  else if !hasCode && singles ≤ 2 then
    String.ofList (threeSingle ++ opening ++ chars ++ threeSingle)
  else if hasLines then inLines
  else String.ofList ('"' :: chars.flatMap escape ++ ['"'])

end Forecast.DocumentText
