import Forecast.Pattern.CharClass

/-!
# Patterns

The shape of a regular expression, as far as it decides whether the expression can be used.  Flags
hold to the end of the group that they stand in.  What cannot be used follows from the tables that
are not at hand, and from bytes that are no character: while bytes are matched, a point or a negated
class could match a part of one.
-/

namespace Forecast

/-- A regular expression. -/
inductive Pattern where
  | empty
  | literal (literal : Pattern.Literal)
  | point
  /-- The start or the end of a text or a line. -/
  | edge
  /-- The start, the end or the inside of a word. -/
  | wordEdge
  /-- A digit, a blank or a word character, or any other. -/
  | shorthand (negated : Bool)
  /-- A character of a class. -/
  | oneOf (members : Pattern.CharClass)
  /-- Flags that hold from there on. -/
  | switch (flags : Pattern.Flags)
  /-- A group, with flags of its own. -/
  | group (flags : Pattern.Flags) (inner : Pattern)
  | repeated (inner : Pattern)
  /-- Parts that follow each other. -/
  | sequence (parts : List Pattern)
  /-- Branches, of which one matches. -/
  | choice (branches : List Pattern)

namespace Pattern

/-- Parts that follow each other. -/
def ofParts : List Pattern → Pattern
  | [] => empty
  | [part] => part
  | parts => sequence parts

/-- Branches, of which one matches. -/
def ofBranches : List Pattern → Pattern
  | [] => empty
  | [branch] => branch
  | branches => choice branches

mutual

/-- Whether a pattern is nested at most so deep. -/
def fits (depth : Nat) : Pattern → Bool
  | .empty | .literal _ | .point | .edge | .wordEdge | .shorthand _ | .switch _ => true
  | .oneOf members => members.fits depth
  | .group _ inner | .repeated inner => depth != 0 && fits (depth - 1) inner
  | .sequence parts => depth != 0 && allFit (depth - 1) parts
  | .choice branches => depth != 0 && allFit (depth - 1) branches

/-- Whether all patterns are nested at most so deep. -/
def allFit (depth : Nat) : List Pattern → Bool
  | [] => true
  | part :: rest => fits depth part && allFit depth rest

end

mutual

/-- The modes behind a pattern, if it can be used. -/
def modesBehind? (modes : Modes) : Pattern → Option Modes
  | .empty | .edge => some modes
  | .literal char => if char.isUsable modes then some modes else none
  | .point => if modes.readsCharacters then some modes else none
  | .wordEdge => if modes.readsCharacters then none else some modes
  | .shorthand negated => if modes.readsCharacters || negated then none else some modes
  | .oneOf members => if members.isUsable modes then some modes else none
  | .switch flags => some (modes.switch flags)
  | .group flags inner => (modesBehind? (modes.switch flags) inner).map fun _ => modes
  | .repeated inner => modesBehind? modes inner
  | .sequence parts => modesBehindAll? modes parts
  | .choice branches => modesBehindAll? modes branches

/-- The modes behind several patterns, if all can be used. -/
def modesBehindAll? (modes : Modes) : List Pattern → Option Modes
  | [] => some modes
  | part :: rest => (modesBehind? modes part).bind fun modes => modesBehindAll? modes rest

end

/-- How deep a pattern may be nested. -/
def depthLimit : Nat := 250

/-- Whether a pattern can be used. -/
def isUsable (pattern : Pattern) : Bool :=
  pattern.fits depthLimit && (pattern.modesBehind? {}).isSome

end Pattern

end Forecast
