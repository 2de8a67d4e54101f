/-!
# Flags of patterns

Letters in a group behind a question mark switch flags on, and behind a minus sign off.
-/

namespace Forecast.Pattern

/-- What can be switched on and off within a pattern. -/
inductive Flag where
  /-- Letters match whatever their case is. -/
  | ignoreCase
  /-- Ends of lines are edges. -/
  | multiLine
  /-- A point matches ends of lines. -/
  | pointMatchesAll
  /-- A repetition is as short as it can be. -/
  | shortest
  /-- What is matched are characters, not bytes. -/
  | characters
  /-- Lines end with two characters. -/
  | carriageReturns
  /-- Blanks and comments are ignored. -/
  | ignoreBlanks
deriving DecidableEq

/-- The flag of a letter. -/
def Flag.ofLetter? : Char → Option Flag
  | 'i' => some .ignoreCase
  | 'm' => some .multiLine
  | 's' => some .pointMatchesAll
  | 'U' => some .shortest
  | 'u' => some .characters
  | 'R' => some .carriageReturns
  | 'x' => some .ignoreBlanks
  | _ => none

/-- Flags that are given together. -/
structure Flags where
  /-- Flags that are switched on. -/
  enabled : List Flag := []
  /-- Flags that are switched off. -/
  disabled : List Flag := []

namespace Flags

/-- Whether nothing is switched. -/
def isEmpty (flags : Flags) : Bool := flags.enabled.isEmpty && flags.disabled.isEmpty

/-- State of a flag, where it had another state before. -/
def state (flags : Flags) (flag : Flag) (before : Bool) : Bool :=
  flags.enabled.contains flag || (before && !flags.disabled.contains flag)

/-- Switch one more flag, unless it is given already. -/
def add? (flags : Flags) (isOff : Bool) (flag : Flag) : Option Flags :=
  if flags.enabled.contains flag || flags.disabled.contains flag then none
  else if isOff then some { flags with disabled := flag :: flags.disabled }
  else some { flags with enabled := flag :: flags.enabled }

/-- Read flags behind those that are given already, on either side of the minus sign: up to a colon,
behind which a group starts, or to the end of the brackets. -/
def read? (isOff : Bool) (flags : Flags) : List Char → Option (Flags × Bool × List Char)
  | [] => none
  | ':' :: rest => if isOff && flags.disabled.isEmpty then none else some (flags, true, rest)
  | ')' :: rest =>
      if flags.isEmpty || (isOff && flags.disabled.isEmpty) then none
      else some (flags, false, rest)
  | '-' :: rest => if isOff then none else read? true flags rest
  | letter :: rest => do
      let flag ← Flag.ofLetter? letter
      read? isOff (← flags.add? isOff flag) rest

end Flags

/-- What matters to whether the parts of a pattern can be used. -/
structure Modes where
  /-- Whether letters match whatever their case is. -/
  ignoresCase : Bool := false
  /-- Whether characters are matched, not bytes. -/
  readsCharacters : Bool := true

/-- The modes behind flags. -/
def Modes.switch (modes : Modes) (flags : Flags) : Modes where
  ignoresCase := flags.state .ignoreCase modes.ignoresCase
  readsCharacters := flags.state .characters modes.readsCharacters

end Forecast.Pattern
