import Forecast.Error
import Forecast.Settings.Reader
import Forecast.Settings.Writer

/-!
# Settings

Settings say how many cells may be computed at a time, whether measurements are collected, and what
is logged.  They are read from a document, where everything has a default and further keys are
ignored, and changed by variables of the environment, of which those that cannot be read are
ignored.
-/

namespace Forecast

/-- Settings of a program. -/
structure Settings where
  /-- How many cells may be computed at a time; where nothing is said, as many as there are
  processors. -/
  maxConcurrentCells : Option Nat := none
  /-- Whether measurements are collected. -/
  collectMetrics : Bool := true
  /-- Level or filter of the log. -/
  logLevel : String := "info"
  /-- Whether the log is structured. -/
  structuredLogging : Bool := true
deriving DecidableEq

/-- Variables that change settings, where they are set. -/
structure Environment where
  /-- How many cells may be computed at a time. -/
  maxConcurrentCells : Option String := none
  /-- Whether measurements are collected. -/
  collectMetrics : Option String := none
  /-- Level or filter of the log. -/
  logLevel : Option String := none

namespace Settings

/-- A count in a document, which is not negative. -/
def count? : Node → Option Nat
  | .integer value => if 0 ≤ value then some value.toNat else none
  | _ => none

/-- A truth value in a document. -/
def truth? : Node → Option Bool
  | .truth value => some value
  | _ => none

/-- A text in a document. -/
def text? : Node → Option String
  | .text value => some value
  | _ => none

/-- What is at a key of a table.  A missing key has the default; a value of the wrong kind is a
fault. -/
def field? {α : Type} (read? : Node → Option α) (default : α) (key : String) (entries : Entries) :
    Option α :=
  match entries.lookup key with
  | none => some default
  | some node => read? node

/-- A group of settings: a table, or a list that holds the first of them in order, or a date or a
time of day, which sets nothing.  Further items of a list are ignored like further keys. -/
def group? (names : List String) : Node → Option Entries
  | .table _ entries => some entries
  | .list items => some (names.zip items)
  | .tables items => some (names.zip (items.map (Node.table .header)))
  | .moment _ => some []
  | _ => none

/-- Read settings from a document. -/
def ofEntries? (entries : Entries) : Option Settings := do
  let aggregation ←
    field? (group? ["max_concurrent_cells", "collect_metrics"]) [] "aggregation" entries
  let logging ← field? (group? ["log_level", "structured_logging"]) [] "logging" entries
  let defaults : Settings := {}
  pure
    { maxConcurrentCells :=
        ← field? (fun node => (count? node).map some) defaults.maxConcurrentCells
          "max_concurrent_cells" aggregation
      collectMetrics := ← field? truth? defaults.collectMetrics "collect_metrics" aggregation
      logLevel := ← field? text? defaults.logLevel "log_level" logging
      structuredLogging :=
        ← field? truth? defaults.structuredLogging "structured_logging" logging }

/-- Read settings from the text of a document. -/
def ofText (text : String) : Except Error Settings :=
  match (DocumentReader.read? text).bind ofEntries? with
  | some settings => pure settings
  | none => throw (.configuration .unreadable)

/-- Read settings from a file, given its text if it exists. -/
def ofFile (contents : Option String) : Except Error Settings :=
  match contents with
  | some text => ofText text
  | none => throw .unavailable

/-- A count of 64 bits in decimal digits, with or without a plus sign. -/
def wordOfText? (text : String) : Option Nat :=
  let digits :=
    match text.toList with
    | '+' :: rest => rest
    | chars => chars
  if digits ≠ [] ∧ digits.all Digits.isDigit ∧ Digits.valueOf digits < UInt64.size then
    some (Digits.valueOf digits)
  else none

/-- A truth value in lower case. -/
def truthOfText? : String → Option Bool
  | "true" => some true
  | "false" => some false
  | _ => none

/-- Apply the variables that are set and can be read. -/
def override (settings : Settings) (environment : Environment) : Settings :=
  { settings with
    maxConcurrentCells :=
      (environment.maxConcurrentCells.bind wordOfText?).or settings.maxConcurrentCells
    collectMetrics :=
      (environment.collectMetrics.bind truthOfText?).getD settings.collectMetrics
    logLevel := environment.logLevel.getD settings.logLevel }

/-- Whether a document sets how many cells may be computed under its name, not by its place in a
list. -/
def namesCount (entries : Entries) : Bool :=
  match entries.lookup "aggregation" with
  | some (.table _ group) => (group.lookup "max_concurrent_cells").isSome
  | _ => false

/-- How many cells may be computed at a time, where a document says so under its name or a variable
does. -/
def explicitCount? (document : Option String) (environment : Environment) (settings : Settings) :
    Option Nat :=
  if (environment.maxConcurrentCells.bind wordOfText?).isSome
      ∨ (document.bind DocumentReader.read?).any namesCount then
    settings.maxConcurrentCells
  else none

/-- The plain levels of the log. -/
def plainLevels : List String := ["error", "warn", "info", "debug", "trace"]

/-- Lower case of ASCII letters. -/
def lowered (text : String) : String := String.ofList (text.toList.map Char.toLower)

/-- Whether a level is plain, in any case of letters, or a filter, which is not looked into. -/
def isLevel (level : String) : Bool :=
  let level := lowered level
  level.toList.contains '=' || level.toList.contains ',' || plainLevels.contains level

/-- Accept settings that a program can run with. -/
def validate (settings : Settings) : Except Error Unit :=
  if settings.maxConcurrentCells = some 0 then throw (.configuration .noConcurrentCells)
  else if !isLevel settings.logLevel then
    throw (.configuration (.unknownLevel settings.logLevel))
  else pure ()

/-- Text of a truth value. -/
def truthText (value : Bool) : String := if value then "true" else "false"

/-- Write settings as a document, for a machine with a number of processors.  Numbers of a document
are signed. -/
def write (processors : Nat) (settings : Settings) : Except Error String :=
  let count := settings.maxConcurrentCells.getD processors
  if count ≤ Int64.maxValue.toInt then
    pure <|
      "[aggregation]\nmax_concurrent_cells = " ++ Digits.text count
        ++ "\ncollect_metrics = " ++ truthText settings.collectMetrics
        ++ "\n\n[logging]\nlog_level = " ++ DocumentText.write settings.logLevel
        ++ "\nstructured_logging = " ++ truthText settings.structuredLogging ++ "\n"
  else throw (.configuration .unwritable)

end Settings

end Forecast
