import Forecast.Settings.LogField
import Forecast.Settings.LogLevel
import Forecast.Text.Blank
import Forecast.Text.ByteRange

/-!
# Directives of log filters

A directive gives a level to a target, to spans in brackets, and to their fields in braces; where it
gives no level, everything is logged.  It is read character by character, between the blanks around
it.  Its parts are then cut out of the whole text at the same positions, counted in bytes: a part
at the end keeps the blanks behind it, and blanks in front shift every part.
-/

namespace Forecast

/-- A level for a target, a span and fields, or for everything. -/
structure LogDirective where
  /-- Where messages come from, if not from everywhere. -/
  target : Option String := none
  /-- The span that they belong to, if it matters. -/
  span : Option String := none
  /-- The fields that the span has. -/
  fields : List LogField := []
  /-- How much is logged. -/
  level : LogLevel := .trace

namespace LogDirective

/-- What is being read. -/
inductive Stage where
  | opening
  /-- A target, or a level alone. -/
  | plain
  /-- A span that starts at a position. -/
  | span (start : Nat)
  /-- A field that starts at a position. -/
  | field (start : Nat)
  /-- The end of the brackets behind fields. -/
  | afterFields
  | afterSpan
  /-- A level that starts at a position. -/
  | level (start : Nat)
deriving DecidableEq

/-- Whether a directive may start with a character other than a bracket. -/
def isFirstChar (char : Char) : Bool :=
  Alphanumeric.isAlphanumeric char || ['-', ':', '_'].contains char

/-- A part of a text between two positions. -/
def part? (written : List Char) (start stop : Nat) : Option String :=
  (ByteRange.between? start stop written).map String.ofList

/-- Read the character at a position. -/
def step (written : List Char) (position : Nat) (char : Char) (stage : Stage)
    (directive : LogDirective) : Option (Stage × LogDirective) :=
  match stage, char with
  | .opening, '[' => some (.span (position + 1), directive)
  | .opening, char => if isFirstChar char then some (.plain, directive) else none
  | .plain, '=' => do
      pure (.level (position + 1), { directive with target := ← part? written 0 position })
  | .plain, '[' => do
      pure (.span (position + 1), { directive with target := ← part? written 0 position })
  | .span start, ']' => do
      pure (.afterSpan, { directive with span := ← part? written start position })
  | .span start, '\x7b' => do
      let span ← part? written start position
      pure (.field (position + 1), { directive with span := if span = "" then none else span })
  | .field start, '\x7d' => do
      let field ← part? written start position
      if field = "" then none
      else pure (.afterFields, { directive with fields := [← LogField.ofText? field] })
  | .afterFields, ']' => some (.afterSpan, directive)
  | .afterSpan, '=' => some (.level (position + 1), directive)
  | .plain, _ | .span _, _ | .field _, _ | .level _, _ => some (stage, directive)
  | .afterFields, _ | .afterSpan, _ => none

/-- Read characters from a position on. -/
def run (written : List Char) : Nat → Stage → LogDirective → List Char →
    Option (Stage × LogDirective)
  | _, stage, directive, [] => some (stage, directive)
  | position, stage, directive, char :: rest => do
      let (stage, directive) ← step written position char stage directive
      run written (position + char.utf8Size) stage directive rest

/-- Complete a directive at the end of a text. -/
def finish? (written : List Char) (stage : Stage) (directive : LogDirective) :
    Option LogDirective :=
  match stage with
  | .plain =>
      match LogLevel.ofText? (String.ofList written) with
      | some level => some { directive with level }
      | none => some { directive with target := String.ofList written }
  | .level start => do
      let level ← ByteRange.from? start written
      if level = [] then pure directive
      else pure { directive with level := ← LogLevel.ofText? (String.ofList level) }
  | .afterSpan => some directive
  | _ => none

def ofText? (text : String) : Option LogDirective := do
  let written := text.toList
  let (stage, directive) ← run written 0 .opening {} (Blank.trim written)
  finish? written stage directive

/-- The level, behind what it is given to. -/
def text (directive : LogDirective) : String :=
  let target := directive.target.getD ""
  let fields :=
    match directive.fields with
    | [] => ""
    | fields => "\x7b" ++ ",".intercalate (fields.map LogField.text) ++ "\x7d"
  let spans :=
    if directive.span = none ∧ fields = "" then ""
    else "[" ++ directive.span.getD "" ++ fields ++ "]"
  if directive.target = none ∧ spans = "" then directive.level.name
  else target ++ spans ++ "=" ++ directive.level.name

/-- Whether a directive depends on spans. -/
def isSpecific (directive : LogDirective) : Bool :=
  directive.span.isSome || !directive.fields.isEmpty

/-- Whether a directive depends on nothing that is known only when a message comes. -/
def isGeneral (directive : LogDirective) : Bool :=
  directive.span.isNone && directive.fields.all fun field => field.value.isNone

/-- How specific directives are: by length of target, presence of a span and number of fields, and
then by their texts. -/
def compareDetail (left right : LogDirective) : Ordering :=
  (Ord.compare (left.target.map String.utf8ByteSize) (right.target.map String.utf8ByteSize)).then <|
    (Ord.compare left.span.isSome right.span.isSome).then <|
    (Ord.compare left.fields.length right.fields.length).then <|
    (Ord.compare left.target right.target).then <|
    (Ord.compare left.span right.span).then (Ord.compare left.fields right.fields)

/-- The most specific directives come first; levels play no part. -/
instance : Ord LogDirective := ⟨fun left right => compareDetail right left⟩

instance : Std.TransOrd LogDirective :=
  have : Std.TransCmp compareDetail :=
    inferInstanceAs (Std.TransCmp
      (compareLex (compareOn fun directive => directive.target.map String.utf8ByteSize) <|
        compareLex (compareOn fun directive => directive.span.isSome) <|
        compareLex (compareOn fun directive => directive.fields.length) <|
        compareLex (compareOn target) <| compareLex (compareOn span) (compareOn fields)))
  Std.TransCmp.opposite

end LogDirective

end Forecast
