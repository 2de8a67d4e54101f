import Forecast.Error

/-!
# Building thresholds

A threshold is accepted when its probabilities are probabilities, when it has an upper bound just
where its condition asks for one, above the lower bound, and when it is finite if it is labelled.
Of several faults the first in that order is reported, values before probabilities.
-/

namespace Forecast.Threshold

/-- Whether a number lies in the unit interval. -/
def isProbability (number : Binary64) : Bool :=
  Binary64.zero.le number && number.le Binary64.one

/-- Reject probabilities out of range; the lower one may be negative infinity and the upper one
positive infinity. -/
def checkProbabilities (probabilities : Bounds) : Except DataError Unit := do
  unless probabilities.lower.same Binary64.negativeInfinity || isProbability probabilities.lower do
    throw (.invalidThreshold (.lowerProbability probabilities.lower))
  match probabilities.upper with
  | some upper =>
      if !upper.same Binary64.infinity && Binary64.one.lt upper then
        throw (.invalidThreshold (.upperProbability upper))
  | none => pure ()

/-- Reject an upper bound that the condition does not ask for, a missing one, and one that is not
above the lower bound. -/
def checkBounds (operator : Operator) (kind : BoundKind) (bounds : Bounds) :
    Except DataError Unit :=
  match decide (operator = .between), bounds.upper with
  | true, none => throw (.invalidThreshold (.missingUpper kind))
  | false, some _ => throw (.invalidThreshold (.unexpectedUpper kind))
  | true, some upper =>
      if upper.le bounds.lower then
        throw (.invalidThreshold (.unorderedBounds kind bounds.lower upper))
      else pure ()
  | false, none => pure ()

/-- Apply a check to a part that is present. -/
def checkPresent (check : Bounds → Except DataError Unit) : Option Bounds →
    Except DataError Unit
  | some bounds => check bounds
  | none => pure ()

/-- Build a threshold from its parts. -/
def build (operator : Operator) (values probabilities : Option Bounds) (label : Option String) :
    Except DataError Threshold := do
  if values.isNone && probabilities.isNone then
    throw (.invalidThreshold .noBounds)
  checkPresent checkProbabilities probabilities
  checkPresent (checkBounds operator .value) values
  checkPresent (checkBounds operator .probability) probabilities
  let threshold : Threshold := { operator, values, probabilities, label }
  if !threshold.isFinite && label.isSome then
    throw (.invalidThreshold .infiniteLabelled)
  pure threshold

/-- A condition on a real value. -/
def ofValue (operator : Operator) (value : Binary64) : Except DataError Threshold :=
  build operator (some ⟨value, none⟩) none none

/-- A condition on a probability. -/
def ofProbability (operator : Operator) (probability : Binary64) : Except DataError Threshold :=
  build operator none (some ⟨probability, none⟩) none

/-- A condition on a real value that occurs at a probability. -/
def ofQuantile (operator : Operator) (value probability : Binary64) :
    Except DataError Threshold :=
  build operator (some ⟨value, none⟩) (some ⟨probability, none⟩) none

/-- The condition of lying between two real values. -/
def betweenValues (lower upper : Binary64) : Except DataError Threshold :=
  build .between (some ⟨lower, some upper⟩) none none

/-- The condition of lying between two probabilities. -/
def betweenProbabilities (lower upper : Binary64) : Except DataError Threshold :=
  build .between none (some ⟨lower, some upper⟩) none

/-- The same condition with a label. -/
def withLabel (threshold : Threshold) (label : String) : Except DataError Threshold :=
  build threshold.operator threshold.values threshold.probabilities (some label)

end Forecast.Threshold
