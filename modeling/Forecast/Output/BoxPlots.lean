import Forecast.Error

/-!
# Box plots

Boxes along an axis share one list of probabilities, which ascends strictly in the unit interval.
Every box has one quantile per probability, and its quantiles do not descend.
-/

namespace Forecast

/-- The quantiles of one box. -/
structure QuantileBox where
  /-- Place of the box on its axis. -/
  linked : Binary64
  /-- Quantiles, one per probability. -/
  quantiles : List Binary64
deriving DecidableEq, Inhabited

/-- Boxes along an axis. -/
structure BoxPlots where
  boxes : List QuantileBox
  /-- Probabilities of the quantiles. -/
  probabilities : List Binary64
  /-- Axis of the places of boxes. -/
  domain : Dimension
  /-- Axis of the quantiles. -/
  range : Dimension
deriving DecidableEq, Inhabited

/-- Whether some item and the one after it satisfy a test. -/
def anyNeighbours {α : Type} (test : α → α → Bool) : List α → Bool
  | first :: second :: rest => test first second || anyNeighbours test (second :: rest)
  | _ => false

namespace QuantileBox

/-- Accept a box with as many quantiles as there are probabilities, none below the one before. -/
def check (probabilities : Nat) (box : QuantileBox) : Except DataError Unit :=
  if box.quantiles.length ≠ probabilities then
    throw (.metadataMismatch
      (.quantileCount box.linked box.quantiles.length probabilities))
  else if anyNeighbours (fun left right => right.lt left) box.quantiles then
    throw (.metadataMismatch (.unsortedQuantiles box.linked))
  else pure ()

/-- Accept boxes in order. -/
def checkAll (probabilities : Nat) : List QuantileBox → Except DataError Unit
  | [] => pure ()
  | box :: rest => do
      box.check probabilities
      checkAll probabilities rest

def same (left right : QuantileBox) : Bool :=
  left.linked.same right.linked && Binary64.sameAll left.quantiles right.quantiles

end QuantileBox

namespace BoxPlots

/-- Whether probabilities ascend strictly in the unit interval. -/
def areProbabilities (probabilities : List Binary64) : Bool :=
  probabilities.all (fun number => Binary64.zero.le number && number.le Binary64.one)
    && !anyNeighbours (fun left right => right.le left) probabilities

def build (boxes : List QuantileBox) (probabilities : List Binary64) (domain range : Dimension) :
    Except DataError BoxPlots := do
  if probabilities.isEmpty then throw (.empty .probabilities)
  if !areProbabilities probabilities then
    throw (.invalidThreshold (.boxProbabilities probabilities))
  QuantileBox.checkAll probabilities.length boxes
  pure { boxes, probabilities, domain, range }

/-- Numeric equality on the same axes. -/
def same (left right : BoxPlots) : Bool :=
  left.boxes.length == right.boxes.length
    && ((left.boxes.zip right.boxes).all fun pair => pair.1.same pair.2)
    && Binary64.sameAll left.probabilities right.probabilities
    && left.domain == right.domain && left.range == right.range

end BoxPlots

end Forecast
