import Forecast.Pattern.ClassReader
import Forecast.Text.Alphanumeric

/-!
# Reading patterns

Which texts are regular expressions that can be used, without backreferences and without looking
around.  The texts come from between braces and commas, so they hold neither counted repetitions nor
codes and properties in braces, and an opening brace is always a fault.
-/

namespace Forecast.Pattern

/-- Whether a character may stand in the name of a group, at its front or behind it. -/
def isNameChar (isFirst : Bool) (char : Char) : Bool :=
  char == '_' ||
    if isFirst then Alphanumeric.isAlphabetic char
    else Alphanumeric.isAlphanumeric char || ['.', '[', ']'].contains char

/-- Read the name of a group up to the angle behind it. -/
def name? (chars : List Char) : Option (List Char × List Char) :=
  match chars.takeWhile (· != '>') with
  | [] => none
  | first :: others =>
      match chars.drop (others.length + 1) with
      | _ :: rest =>
          if isNameChar true first ∧ others.all (isNameChar false) then some (first :: others, rest)
          else none
      | [] => none

/-- What was read in front of a group, and the flags of the group. -/
structure Enclosing where
  /-- Flags of the group. -/
  flags : Flags
  /-- Whether blanks were ignored in front of it. -/
  ignoresBlanks : Bool
  /-- Branches in front of it, the last first. -/
  branches : List Pattern
  /-- Parts of its own branch in front of it, the last first. -/
  parts : List Pattern

/-- A pattern that is being read. -/
structure Unfinished where
  /-- Whether blanks are ignored. -/
  ignoresBlanks : Bool := false
  /-- Names of groups. -/
  names : List (List Char) := []
  /-- Branches of the innermost group, the last first. -/
  branches : List Pattern := []
  /-- Parts behind them, the last first. -/
  parts : List Pattern := []
  /-- What the groups that are open stand in, the innermost first. -/
  outer : List Enclosing := []

namespace Unfinished

def add (unfinished : Unfinished) (part : Pattern) : Unfinished :=
  { unfinished with parts := part :: unfinished.parts }

def branch (unfinished : Unfinished) : Unfinished :=
  { unfinished with
    branches := ofParts unfinished.parts.reverse :: unfinished.branches
    parts := [] }

/-- All that the innermost group holds. -/
def content (unfinished : Unfinished) : Pattern :=
  ofBranches unfinished.branch.branches.reverse

/-- Repeat the last part.  There has to be one, and flags are none. -/
def repeat? (unfinished : Unfinished) : Option Unfinished :=
  match unfinished.parts with
  | [] | .switch _ :: _ => none
  | part :: parts => some { unfinished with parts := .repeated part :: parts }

/-- Switch flags from there on. -/
def switch (unfinished : Unfinished) (flags : Flags) : Unfinished :=
  { unfinished.add (.switch flags) with
    ignoresBlanks := flags.state .ignoreBlanks unfinished.ignoresBlanks }

def enter (unfinished : Unfinished) (flags : Flags) : Unfinished where
  ignoresBlanks := flags.state .ignoreBlanks unfinished.ignoresBlanks
  names := unfinished.names
  outer :=
    { flags
      ignoresBlanks := unfinished.ignoresBlanks
      branches := unfinished.branches
      parts := unfinished.parts } :: unfinished.outer

/-- Close the innermost group. -/
def leave? (unfinished : Unfinished) : Option Unfinished :=
  match unfinished.outer with
  | [] => none
  | enclosing :: outer =>
      some
        { ignoresBlanks := enclosing.ignoresBlanks
          names := unfinished.names
          branches := enclosing.branches
          parts := .group enclosing.flags unfinished.content :: enclosing.parts
          outer }

/-- Read what follows an opening bracket: a name, which no other group has, or flags, or neither. -/
def enter? (unfinished : Unfinished) (chars : List Char) : Option (Unfinished × List Char) :=
  match skip unfinished.ignoresBlanks chars with
  | '?' :: 'P' :: '<' :: rest | '?' :: '<' :: rest => do
      let (name, rest) ← name? rest
      if unfinished.names.contains name then none
      else pure ({ unfinished.enter {} with names := name :: unfinished.names }, rest)
  | '?' :: rest => do
      let (flags, isGroup, rest) ← Flags.read? false {} rest
      pure (if isGroup then unfinished.enter flags else unfinished.switch flags, rest)
  | rest => some (unfinished.enter {}, rest)

/-- Read on from a character.  A question mark close behind a repetition belongs to it. -/
def step? (unfinished : Unfinished) : Char → List Char → Option (Unfinished × List Char)
  | '(', rest => unfinished.enter? rest
  | ')', rest => unfinished.leave?.map fun unfinished => (unfinished, rest)
  | '|', rest => some (unfinished.branch, rest)
  | '*', rest | '+', rest | '?', rest =>
      unfinished.repeat?.map fun unfinished =>
        match rest with
        | '?' :: rest => (unfinished, rest)
        | rest => (unfinished, rest)
  | '\x7b', _ => none
  | '[', rest =>
      (CharClass.read? unfinished.ignoresBlanks rest).map fun (members, rest) =>
        (unfinished.add (.oneOf members), rest)
  | '\\', rest =>
      (escape? unfinished.ignoresBlanks rest).map fun (part, rest) => (unfinished.add part, rest)
  | '.', rest => some (unfinished.add .point, rest)
  | '^', rest | '$', rest => some (unfinished.add .edge, rest)
  | char, rest => some (unfinished.add (.literal { char }), rest)

/-- Read the rest of a pattern in at most `fuel` steps. -/
def read? : Nat → Unfinished → List Char → Option Pattern
  | 0, _, _ => none
  | fuel + 1, unfinished, chars =>
      match skip unfinished.ignoresBlanks chars with
      | [] => if unfinished.outer.isEmpty then some unfinished.content else none
      | char :: rest =>
          match unfinished.step? char rest with
          | some (unfinished, rest) => read? fuel unfinished rest
          | none => none

end Unfinished

def ofText? (text : String) : Option Pattern :=
  Unfinished.read? (text.length + 1) {} text.toList

/-- Whether a text is a regular expression that can be used. -/
def isWellFormed (text : String) : Bool :=
  match ofText? text with
  | some pattern => pattern.isUsable
  | none => false

/-- A repetition needs something in front of it, and every bracket its partner. -/
example :
    isWellFormed "^(a|[^]b-d]*)+$" = true ∧ isWellFormed "a|*" = false ∧
      isWellFormed "(a" = false ∧ isWellFormed "[d-b]" = false := by decide +kernel

/-- Digits are known among bytes only, and a flag ends with its group. -/
example :
    isWellFormed "(?-u:\\d)" = true ∧ isWellFormed "\\d" = false ∧
      isWellFormed "(?-u:\\d)\\d" = false := by decide +kernel

end Forecast.Pattern
