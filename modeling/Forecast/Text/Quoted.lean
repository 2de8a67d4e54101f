import Forecast.Text.Printable

/-!
# Quoted text

Text between double quotes for messages.  Quotes and backslashes are escaped, and a character that
cannot be shown by itself is written as its code.
-/

namespace Forecast.Quoted

/-- The escape of a character, or the character itself. -/
def escape (char : Char) : List Char :=
  match char with
  | '"' => ['\\', '"']
  | '\\' => ['\\', '\\']
  | '\n' => ['\\', 'n']
  | '\r' => ['\\', 'r']
  | '\t' => ['\\', 't']
  | char =>
      if char.toNat = 0 then ['\\', '0']
      else if Printable.isPrintable char then [char]
      else ['\\', 'u', '\x7b'] ++ Nat.toDigits 16 char.toNat ++ ['\x7d']

/-- A text in quotes. -/
def quote (text : String) : String :=
  "\"" ++ String.ofList (text.toList.flatMap escape) ++ "\""

/-- An optional text: its presence, and the text in quotes. -/
def option : Option String → String
  | none => "None"
  | some text => "Some(" ++ quote text ++ ")"

end Forecast.Quoted
