import Forecast.Pattern.Flags

/-!
# Classes of characters

A class in brackets lists characters, ranges and other classes, and combines what it lists.  Tables
of Unicode are not at hand.  So while characters are matched, a class cannot hold digits, blanks or
word characters by an escape, and nothing whatever its case is.  While bytes are matched, a class
cannot hold what is not one byte of a character.
-/

namespace Forecast.Pattern

/-- A character that stands for itself. -/
structure Literal where
  char : Char
  /-- Whether a code in two digits gives it, so that it is a byte where bytes are matched. -/
  isByte : Bool := false

namespace Literal

/-- Whether a character is one byte. -/
def isAscii (literal : Literal) : Bool := literal.char.toNat < 128

/-- Whether a character can be used outside classes. -/
def isUsable (modes : Modes) (literal : Literal) : Bool :=
  if modes.readsCharacters then !modes.ignoresCase else literal.isAscii || !literal.isByte

/-- Whether a character can be used in a class. -/
def isMember (modes : Modes) (literal : Literal) : Bool :=
  if modes.readsCharacters then !modes.ignoresCase else literal.isAscii

end Literal

/-- A class of characters, or what a class lists. -/
inductive CharClass where
  | empty
  | literal (literal : Literal)
  | range (first last : Literal)
  /-- A class by its name between colons, or all characters outside it. -/
  | named (negated : Bool)
  /-- Digits, blanks or word characters by an escape, or all characters outside them. -/
  | shorthand (negated : Bool)
  /-- A class in brackets, or all characters outside it. -/
  | bracketed (negated : Bool) (members : CharClass)
  | union (members : List CharClass)
  /-- Two classes that a doubled sign combines. -/
  | combined (left right : CharClass)

namespace CharClass

def ofMembers : List CharClass → CharClass
  | [] => empty
  | [member] => member
  | members => union members

mutual

/-- Whether a class is nested at most so deep. -/
def fits (depth : Nat) : CharClass → Bool
  | .empty | .literal _ | .range _ _ | .named _ | .shorthand _ => true
  | .bracketed _ members => depth != 0 && fits (depth - 1) members
  | .union members => depth != 0 && allFit (depth - 1) members
  | .combined left right => depth != 0 && fits (depth - 1) left && fits (depth - 1) right

/-- Whether all classes are nested at most so deep. -/
def allFit (depth : Nat) : List CharClass → Bool
  | [] => true
  | member :: rest => fits depth member && allFit depth rest

end

mutual

/-- Whether a class can be used. -/
def isUsable (modes : Modes) : CharClass → Bool
  | .empty => true
  | .literal char => char.isMember modes
  | .range first last => first.isMember modes && last.isMember modes
  | .named negated => if modes.readsCharacters then !modes.ignoresCase else !negated
  | .shorthand negated => !modes.readsCharacters && !negated
  | .bracketed negated members => (modes.readsCharacters || !negated) && isUsable modes members
  | .union members => allUsable modes members
  | .combined left right => isUsable modes left && isUsable modes right

/-- Whether all classes can be used. -/
def allUsable (modes : Modes) : List CharClass → Bool
  | [] => true
  | member :: rest => isUsable modes member && allUsable modes rest

end

end CharClass

end Forecast.Pattern
