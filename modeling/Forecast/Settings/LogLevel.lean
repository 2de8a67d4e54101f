import Forecast.Settings.Basic

/-!
# Levels of logs

The levels from nothing to everything, each with a lower-case name and a number.
-/

namespace Forecast

/-- How much is logged, from nothing to everything. -/
inductive LogLevel where
  | off
  | error
  | warn
  | info
  | debug
  | trace
deriving DecidableEq, Inhabited

namespace LogLevel

def all : List LogLevel := [off, error, warn, info, debug, trace]

def name : LogLevel → String
  | off => "off"
  | error => "error"
  | warn => "warn"
  | info => "info"
  | debug => "debug"
  | trace => "trace"

/-- The level with a number from zero up, or with a name in any case of letters. -/
def ofText? (text : String) : Option LogLevel :=
  match Settings.wordOfText? text with
  | some number => all[number]?
  | none => all.find? fun level => level.name == Settings.lowered text

end LogLevel

end Forecast
