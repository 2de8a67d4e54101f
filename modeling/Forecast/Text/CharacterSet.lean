/-!
# Sets of characters

A large set of characters is held as the lengths of its runs: so many codes outside the set, so many
inside it, and so on from zero.  All codes behind the last run are outside.
-/

namespace Forecast

/-- A set of characters by the lengths of its runs, the first of which is outside the set. -/
structure CharacterSet where
  /-- Lengths of runs, outside and inside by turns. -/
  runs : List Nat

namespace CharacterSet

/-- Whether a code lies in a run inside the set. -/
def holds : List Nat → Nat → Bool
  | outside :: inside :: rest, code =>
      if code < outside then false
      else if code < outside + inside then true
      else holds rest (code - (outside + inside))
  | _, _ => false

/-- Whether a character belongs to a set. -/
def contains (set : CharacterSet) (char : Char) : Bool := holds set.runs char.toNat

end CharacterSet

end Forecast
