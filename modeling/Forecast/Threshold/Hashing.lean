import Forecast.Threshold.Basic

/-!
# Hashing thresholds

A hasher is fed one write after the other.  A threshold writes its condition, the bounds that it has
and its label.  Nothing tells whether bounds are values or probabilities.
-/

namespace Forecast

/-- One write to a hasher. -/
inductive HashWrite where
  /-- Which variant a value is, by number. -/
  | variant (number : Nat)
  | word (bits : UInt64)
  | text (text : String)
deriving DecidableEq

/-- An optional part: whether it is there, then its own writes. -/
def HashWrite.optional {α : Type} (writes : α → List HashWrite) : Option α → List HashWrite
  | none => [variant 0]
  | some part => variant 1 :: writes part

/-- Patterns of the bounds. -/
def Bounds.hashWrites (bounds : Bounds) : List HashWrite :=
  .word bounds.lower.bits :: HashWrite.optional (fun upper => [.word upper.bits]) bounds.upper

namespace Threshold

/-- Everything that a threshold writes, in order. -/
def hashWrites (threshold : Threshold) : List HashWrite :=
  .variant threshold.operator.rank ::
    (threshold.values.elim [] Bounds.hashWrites
      ++ threshold.probabilities.elim [] Bounds.hashWrites
      ++ HashWrite.optional (fun label => [.text label]) threshold.label)

/-- Feed a threshold to a hasher in some state. -/
def hashInto {σ : Type} (write : σ → HashWrite → σ) (state : σ) (threshold : Threshold) : σ :=
  threshold.hashWrites.foldl write state

end Threshold

end Forecast
