import Forecast.Settings.Scalar

/-!
# Reading documents

A document is read line by line: headers open tables, and every other line that is not blank puts a
value at a key of the table that is open.  Lists and tables in braces may be nested, and keys may
have parts, but only so deep.  The readers of nested values take a step count, which the length of
the text bounds.
-/

namespace Forecast.DocumentReader

open Scalar (isBlank lineBreak?)

/-- How many lists and tables in braces may lie in each other, and how many parts a key may have. -/
def deepest : Nat := 79

/-- Skip blanks within a line. -/
def skipBlanks (chars : List Char) : List Char := chars.dropWhile isBlank

/-- Skip a comment up to the end of its line. -/
def skipComment? : List Char → Option (List Char)
  | '#' :: rest =>
      let remaining := rest.dropWhile fun char => !Scalar.isControl char
      match remaining with
      | [] | '\n' :: _ | '\r' :: '\n' :: _ => some remaining
      | _ => none
  | chars => some chars

/-- Skip blanks, comments and line breaks, in at most `fuel` lines. -/
def skipLines? : Nat → List Char → Option (List Char)
  | 0, _ => none
  | fuel + 1, chars => do
      let rest ← skipComment? (skipBlanks chars)
      match lineBreak? rest with
      | some next => skipLines? fuel next
      | none => pure rest

/-- Whether a character may stand in a key without quotes. -/
def isKeyChar (char : Char) : Bool := char.isAlphanum || char == '_' || char == '-'

/-- One part of a key. -/
def keyPart? (chars : List Char) : Option (String × List Char) :=
  match chars with
  | '"' :: rest => do
      let (text, rest) ← Scalar.quoted? (rest.length + 1) rest
      pure (String.ofList text, rest)
  | '\'' :: rest => do
      let (text, rest) ← Scalar.literal? rest
      pure (String.ofList text, rest)
  | chars =>
      match chars.takeWhile isKeyChar with
      | [] => none
      | text => some (String.ofList text, chars.drop text.length)

/-- A key of at most so many parts between dots. -/
def key? : Nat → List Char → Option (List String × List Char)
  | 0, _ => none
  | limit + 1, chars => do
      let (part, rest) ← keyPart? (skipBlanks chars)
      match skipBlanks rest with
      | '.' :: rest => do
          let (parts, rest) ← key? limit rest
          pure (part :: parts, rest)
      | rest => pure ([part], rest)

/-- A path and its last part. -/
def splitLast? (path : List String) : Option (List String × String) :=
  path.getLast?.map fun last => (path.dropLast, last)

mutual

/-- A value, with what follows it.  It may hold values at so many levels. -/
def value? (levels : Nat) : Nat → List Char → Option (Node × List Char)
  | 0, _ => none
  | fuel + 1, chars =>
      match levels, chars with
      | 0, '[' :: _ | 0, '\x7b' :: _ => none
      | levels + 1, '[' :: rest => do
          let (items, rest) ← items? levels fuel rest
          pure (.list items, rest)
      | levels + 1, '\x7b' :: rest =>
          match skipBlanks rest with
          | '\x7d' :: rest => some (.table .inBraces [], rest)
          | rest => do
              let (entries, rest) ← fields? levels fuel [] rest
              pure (.table .inBraces entries, rest)
      | _, '"' :: _ | _, '\'' :: _ => do
          let (text, rest) ← Scalar.text? chars
          pure (.text (String.ofList text), rest)
      | _, chars => Scalar.unquoted? chars

/-- The items of a list up to its closing bracket. -/
def items? (levels : Nat) : Nat → List Char → Option (List Node × List Char)
  | 0, _ => none
  | fuel + 1, chars => do
      let rest ← skipLines? (chars.length + 1) chars
      match rest with
      | ']' :: rest => pure ([], rest)
      | rest => do
          let (item, rest) ← value? levels fuel rest
          let rest ← skipLines? (rest.length + 1) rest
          match rest with
          | ']' :: rest => pure ([item], rest)
          | ',' :: rest => do
              let (items, rest) ← items? levels fuel rest
              pure (item :: items, rest)
          | _ => none

/-- The fields of a table in braces up to its closing brace, put behind those read already. -/
def fields? (levels : Nat) : Nat → Entries → List Char → Option (Entries × List Char)
  | 0, _, _ => none
  | fuel + 1, entries, chars => do
      let (path, node, rest) ← field? levels fuel chars
      let (path, key) ← splitLast? path
      let entries ← entries.defineAt path key node
      match skipBlanks rest with
      | '\x7d' :: rest => pure (entries, rest)
      | ',' :: rest => fields? levels fuel entries rest
      | _ => none

/-- A key with its value. -/
def field? (levels : Nat) : Nat → List Char → Option (List String × Node × List Char)
  | 0, _ => none
  | fuel + 1, chars => do
      let (path, rest) ← key? deepest chars
      match rest with
      | '=' :: rest => do
          let (node, rest) ← value? levels fuel (skipBlanks rest)
          pure (path, node, rest)
      | _ => none

end

/-- The end of a line behind what it holds. -/
def lineEnd? (chars : List Char) : Option (List Char) := do
  let rest ← skipComment? (skipBlanks chars)
  match rest with
  | [] => pure []
  | rest => lineBreak? rest

/-- The key of a header up to its closing brackets. -/
def header? (closing : List Char) (chars : List Char) :
    Option (List String × String × List Char) := do
  let (path, rest) ← key? deepest chars
  let (path, key) ← splitLast? path
  if closing.isPrefixOf rest then
    pure (path, key, ← lineEnd? (rest.drop closing.length))
  else none

/-- Read lines into a document in which the table of a header is open. -/
def lines? : Nat → List String → Entries → List Char → Option Entries
  | 0, _, _, _ => none
  | fuel + 1, opened, entries, chars => do
      let rest ← skipLines? (chars.length + 1) chars
      match rest with
      | [] => pure entries
      | '[' :: '[' :: rest => do
          let (path, key, rest) ← header? [']', ']'] rest
          lines? fuel (path ++ [key]) (← entries.openNext path key) rest
      | '[' :: rest => do
          let (path, key, rest) ← header? [']'] rest
          lines? fuel (path ++ [key]) (← entries.openTable path key) rest
      | rest => do
          let (path, node, after) ← field? deepest (rest.length + 1) rest
          let (path, key) ← splitLast? path
          lines? fuel opened (← entries.defineUnder opened path key node) (← lineEnd? after)

/-- Read a document, with or without a byte order mark. -/
def read? (text : String) : Option Entries :=
  let chars :=
    match text.toList with
    | '\ufeff' :: rest => rest
    | chars => chars
  lines? (chars.length + 1) [] [] chars

end Forecast.DocumentReader
