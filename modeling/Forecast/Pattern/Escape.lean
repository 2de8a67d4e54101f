import Forecast.Pattern.Basic
import Forecast.Settings.Scalar
import Forecast.Text.Blank

/-!
# Escapes and blanks of patterns

A backslash gives the character behind it another meaning, or takes its meaning away.  Where blanks
are ignored, so are comments, which go from a number sign to the end of the line.
-/

namespace Forecast.Pattern

/-- What follows blanks and comments, from the inside of a comment or not. -/
def skipBlanks (inComment : Bool) : List Char → List Char
  | [] => []
  | char :: rest =>
      if inComment then skipBlanks (char != '\n') rest
      else if Blank.isBlank char then skipBlanks false rest
      else if char = '#' then skipBlanks true rest
      else char :: rest

/-- What follows blanks and comments where they are ignored. -/
def skip (ignoresBlanks : Bool) (chars : List Char) : List Char :=
  if ignoresBlanks then skipBlanks false chars else chars

/-- So many digits, between which blanks may stand. -/
def digits? (ignoresBlanks : Bool) : Nat → List Char → Option (List Char × List Char)
  | 0, chars => some ([], chars)
  | count + 1, chars =>
      match skip ignoresBlanks chars with
      | [] => none
      | digit :: rest =>
          (digits? ignoresBlanks count rest).map fun (digits, rest) => (digit :: digits, rest)

/-- A character by its code in so many hexadecimal digits. -/
def coded? (ignoresBlanks : Bool) (width : Nat) (chars : List Char) :
    Option (Pattern × List Char) := do
  let (digits, rest) ← digits? ignoresBlanks width chars
  let char ← Scalar.coded? digits
  pure (.literal { char, isByte := width == 2 }, rest)

/-- What a character stands for behind a backslash. -/
def ofEscaped? : Char → Option Pattern
  | 'd' | 's' | 'w' => some (.shorthand false)
  | 'D' | 'S' | 'W' => some (.shorthand true)
  | 'A' | 'z' => some .edge
  | 'b' | 'B' | '<' | '>' => some .wordEdge
  | 'a' => some (.literal { char := Char.ofNat 7 })
  | 'f' => some (.literal { char := Char.ofNat 12 })
  | 'n' => some (.literal { char := '\n' })
  | 'r' => some (.literal { char := '\r' })
  | 't' => some (.literal { char := '\t' })
  | 'v' => some (.literal { char := Char.ofNat 11 })
  | char =>
      if char.toNat < 128 && !char.isAlphanum then some (.literal { char }) else none

/-- Read an escape behind its backslash. -/
def escape? (ignoresBlanks : Bool) : List Char → Option (Pattern × List Char)
  | [] => none
  | 'x' :: rest => coded? ignoresBlanks 2 rest
  | 'u' :: rest => coded? ignoresBlanks 4 rest
  | 'U' :: rest => coded? ignoresBlanks 8 rest
  | char :: rest => (ofEscaped? char).map fun part => (part, rest)

end Forecast.Pattern
