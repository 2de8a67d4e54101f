import Forecast.Collection.SortedMap
import Forecast.Output.BoxPlots
import Forecast.Output.Matrix
import Forecast.Output.Order

/-!
# Metric outputs

The value of a metric output has the shape of its group.  An output is such a value with metadata.
-/

namespace Forecast

/-- Named vectors of one length. -/
structure MultiVector where
  /-- Vectors by axis. -/
  vectors : SortedMap Dimension (List Binary64)
deriving DecidableEq, Inhabited

namespace MultiVector

/-- Build from vectors by axis, of which the last for an axis counts.  There must be one at least,
and all must agree in length. -/
def build (vectors : List (Dimension × List Binary64)) : Except DataError MultiVector :=
  let map := SortedMap.ofList vectors
  match map.values with
  | [] => throw (.empty .vectors)
  | first :: rest =>
      if rest.any fun vector => vector.length != first.length then
        throw (.metadataMismatch .vectorLengths)
      else pure ⟨map⟩

/-- Length of the vectors. -/
def vectorLength (output : MultiVector) : Nat := output.vectors.values.head?.elim 0 List.length

/-- Numeric equality on the same axes. -/
def same (left right : MultiVector) : Bool :=
  left.vectors.keys == right.vectors.keys
    && (left.vectors.values.zip right.vectors.values).all fun pair =>
      Binary64.sameAll pair.1 pair.2

end MultiVector

/-- Type of the values of a group. -/
abbrev OutputGroup.Value : OutputGroup → Type
  | .doubleScore => Binary64
  | .durationScore => Duration
  | .multiVector => MultiVector
  | .matrix => Matrix
  | .boxPlot => BoxPlots
  | .paired => List (Instant × Duration)

/-- Numeric equality of two values of a group. -/
def OutputGroup.sameValue : (group : OutputGroup) → group.Value → group.Value → Bool
  | .doubleScore, left, right => Binary64.same left right
  | .durationScore, left, right => decide (left = right)
  | .multiVector, left, right => MultiVector.same left right
  | .matrix, left, right => Matrix.same left right
  | .boxPlot, left, right => BoxPlots.same left right
  | .paired, left, right => decide (left = right)

/-- A computed metric value of a shape. -/
structure Output (group : OutputGroup) where
  value : group.Value
  /-- What the value measures. -/
  metadata : OutputMetadata

/-- Numeric equality with the same metadata. -/
def Output.same {group : OutputGroup} (left right : Output group) : Bool :=
  group.sameValue left.value right.value && left.metadata == right.metadata

end Forecast
