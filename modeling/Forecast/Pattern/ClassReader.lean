import Forecast.Pattern.Escape

/-!
# Reading classes of characters

A class is read behind its opening bracket.  Dashes at its front, or a closing bracket there, stand
for themselves.  Two ampersands, dashes or tildes combine all in front of them with what follows, up
to the next such sign or the closing bracket.
-/

namespace Forecast.Pattern.CharClass

/-- Names that a class may have between colons. -/
def names : List String :=
  ["alnum", "alpha", "ascii", "blank", "cntrl", "digit", "graph", "lower", "print", "punct",
    "space", "upper", "word", "xdigit"]

/-- Read a class by its name, behind the bracket in front of it. -/
def named? : List Char → Option (CharClass × List Char)
  | ':' :: rest =>
      let (negated, rest) :=
        match rest with
        | '^' :: rest => (true, rest)
        | rest => (false, rest)
      let name := rest.takeWhile (· != ':')
      match rest.drop name.length with
      | ':' :: ']' :: rest =>
          if names.contains (String.ofList name) then some (named negated, rest) else none
      | _ => none
  | _ => none

/-- Read one character or an escape. -/
def item? (ignoresBlanks : Bool) : List Char → Option (Pattern × List Char)
  | [] => none
  | '\\' :: rest => escape? ignoresBlanks rest
  | char :: rest => some (.literal { char }, rest)

/-- What an item stands for in a class. -/
def ofItem? : Pattern → Option CharClass
  | .literal char => some (literal char)
  | .shorthand negated => some (shorthand negated)
  | _ => none

/-- What an item stands for at the end of a range. -/
def endOfRange? : Pattern → Option Literal
  | .literal char => some char
  | _ => none

/-- The character behind a dash.  Where blanks are ignored, a number sign is left out with them, but
not the comment behind it. -/
def next? (ignoresBlanks : Bool) (chars : List Char) : Option Char :=
  if ignoresBlanks then
    match Blank.skip chars with
    | '#' :: rest => (Blank.skip rest).head?
    | rest => rest.head?
  else chars.head?

/-- Read an item, or the range that it starts.  A dash in front of a closing bracket or another dash
starts none. -/
def member? (ignoresBlanks : Bool) (chars : List Char) : Option (CharClass × List Char) := do
  let (first, rest) ← item? ignoresBlanks chars
  let alone := (ofItem? first).map fun member => (member, rest)
  match skip ignoresBlanks rest with
  | '-' :: rest =>
      if next? ignoresBlanks rest = some ']' ∨ next? ignoresBlanks rest = some '-' then alone
      else
        let (last, rest) ← item? ignoresBlanks (skip ignoresBlanks rest)
        let first ← endOfRange? first
        let last ← endOfRange? last
        if first.char ≤ last.char then pure (range first last, rest) else none
  | _ => alone

/-- A class that is being read. -/
structure Unclosed where
  /-- Whether it stands for all characters outside. -/
  negated : Bool
  /-- Whether nothing but dashes was read. -/
  isFront : Bool := true
  /-- What stands in front of the last doubled sign. -/
  left : Option CharClass := none
  /-- What follows it, the last first. -/
  members : List CharClass := []

namespace Unclosed

/-- Read the opening of a class behind its bracket. -/
def ofOpening (ignoresBlanks : Bool) (chars : List Char) : Unclosed × List Char :=
  match skip ignoresBlanks chars with
  | '^' :: rest => ({ negated := true }, rest)
  | rest => ({ negated := false }, rest)

def add (unclosed : Unclosed) (member : CharClass) : Unclosed :=
  { unclosed with isFront := false, members := member :: unclosed.members }

/-- All that was read. -/
def content (unclosed : Unclosed) : CharClass :=
  let right := ofMembers unclosed.members.reverse
  match unclosed.left with
  | none => right
  | some left => combined left right

/-- Combine all that was read with what follows. -/
def combine (unclosed : Unclosed) : Unclosed :=
  { unclosed with isFront := false, left := some unclosed.content, members := [] }

def close (unclosed : Unclosed) : CharClass := bracketed unclosed.negated unclosed.content

/-- Read the rest of a class, within others, in at most `fuel` steps. -/
def read? (ignoresBlanks : Bool) :
    Nat → Unclosed → List Unclosed → List Char → Option (CharClass × List Char)
  | 0, _, _, _ => none
  | fuel + 1, unclosed, outer, chars =>
      let chars := skip ignoresBlanks chars
      match unclosed.isFront, unclosed.members, chars with
      | true, _, '-' :: rest =>
          read? ignoresBlanks fuel { unclosed.add (literal { char := '-' }) with isFront := true }
            outer rest
      | true, [], ']' :: rest =>
          read? ignoresBlanks fuel (unclosed.add (literal { char := ']' })) outer rest
      | _, _, '[' :: rest =>
          match named? rest with
          | some (member, rest) => read? ignoresBlanks fuel (unclosed.add member) outer rest
          | none =>
              let (inner, rest) := ofOpening ignoresBlanks rest
              read? ignoresBlanks fuel inner (unclosed :: outer) rest
      | _, _, ']' :: rest =>
          match outer with
          | [] => some (unclosed.close, rest)
          | parent :: outer => read? ignoresBlanks fuel (parent.add unclosed.close) outer rest
      | _, _, '&' :: '&' :: rest | _, _, '-' :: '-' :: rest | _, _, '~' :: '~' :: rest =>
          read? ignoresBlanks fuel unclosed.combine outer rest
      | _, _, chars =>
          match member? ignoresBlanks chars with
          | some (member, rest) => read? ignoresBlanks fuel (unclosed.add member) outer rest
          | none => none

end Unclosed

/-- Read a class behind its opening bracket. -/
def read? (ignoresBlanks : Bool) (chars : List Char) : Option (CharClass × List Char) :=
  let (unclosed, rest) := Unclosed.ofOpening ignoresBlanks chars
  Unclosed.read? ignoresBlanks (rest.length + 1) unclosed [] rest

end Forecast.Pattern.CharClass
