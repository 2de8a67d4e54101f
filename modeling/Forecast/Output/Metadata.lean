import Forecast.Output.Catalogue
import Forecast.Sample.Metadata

/-!
# Metadata of outputs

What a metric output measures: its metric and component, its unit and that of the pairs it was
computed from, and the sample behind it.  Outputs are filed by cell, the pair of a window and a
threshold, and by metric.
-/

namespace Forecast

/-- Description of a metric output. -/
structure OutputMetadata where
  /-- Metric that was computed. -/
  metric : Metric
  /-- Component of the metric. -/
  component : Option Component := none
  /-- Number of pairs behind the output. -/
  sampleSize : Nat := 0
  /-- Unit of the output. -/
  unit : MeasurementUnit := dimensionless
  /-- Unit of the pairs. -/
  inputUnit : MeasurementUnit := dimensionless
  /-- Dataset of the pairs. -/
  identifier : Option DatasetIdentifier := none
  /-- Window of the pairs. -/
  window : Option TimeWindow := none
  /-- Condition on the pairs. -/
  threshold : Option Threshold := none
deriving DecidableEq, Inhabited

namespace OutputMetadata

/-- What outputs of one store have in common: metric, component and both units. -/
def minimallyEqual (left right : OutputMetadata) : Bool :=
  left.metric == right.metric && left.component == right.component
    && left.unit == right.unit && left.inputUnit == right.inputUnit

/-- Metric, units, sample size and window in brackets, with a component after its metric. -/
def text (metadata : OutputMetadata) : String :=
  let parts :=
    [some metadata.metric.name, metadata.component.map Component.name, some metadata.unit,
      some metadata.inputUnit, some (Digits.text metadata.sampleSize),
      metadata.window.map TimeWindow.text]
  "[" ++ ",".intercalate (parts.filterMap id) ++ "]"

theorem minimallyEqual_iff {left right : OutputMetadata} :
    left.minimallyEqual right = true ↔
      left.metric = right.metric ∧ left.component = right.component
        ∧ left.unit = right.unit ∧ left.inputUnit = right.inputUnit := by
  simp [minimallyEqual, and_assoc]

@[simp]
theorem minimallyEqual_refl (metadata : OutputMetadata) :
    metadata.minimallyEqual metadata = true := by
  simp [minimallyEqual_iff]

/-- Metadata minimally equal to the same ones are so to each other. -/
theorem minimallyEqual_of_common {left right common : OutputMetadata}
    (leftSame : left.minimallyEqual common = true)
    (rightSame : right.minimallyEqual common = true) : left.minimallyEqual right = true := by
  rw [minimallyEqual_iff] at leftSame rightSame ⊢
  obtain ⟨metrics, components, units, inputUnits⟩ := leftSame
  obtain ⟨otherMetrics, otherComponents, otherUnits, otherInputUnits⟩ := rightSame
  exact ⟨metrics.trans otherMetrics.symm, components.trans otherComponents.symm,
    units.trans otherUnits.symm, inputUnits.trans otherInputUnits.symm⟩

end OutputMetadata

/-- Coordinate of an evaluation cell. -/
structure CellKey where
  /-- Window of the cell. -/
  window : TimeWindow
  /-- Threshold of the cell. -/
  threshold : Threshold
deriving DecidableEq, Inhabited

namespace CellKey

/-- Order by window, then by threshold. -/
def compare (left right : CellKey) : Ordering :=
  (left.window.compare right.window).then (left.threshold.compare right.threshold)

instance : Ord CellKey := ⟨compare⟩

/-- Window and threshold in parentheses. -/
def text (key : CellKey) : String :=
  "(" ++ key.window.text ++ ", " ++ key.threshold.text ++ ")"

end CellKey

/-- A metric or one of its components. -/
structure MetricKey where
  metric : Metric
  component : Option Component := none
deriving DecidableEq, Inhabited

namespace MetricKey

/-- Order by metric, then by component, a metric as a whole first. -/
def compare (left right : MetricKey) : Ordering :=
  (Ord.compare left.metric right.metric).then <|
    match left.component, right.component with
    | some left, some right => Ord.compare left right
    | left, right => Ord.compare left.isSome right.isSome

instance : Ord MetricKey := ⟨compare⟩

/-- The metric, with a component after a slash. -/
def text (key : MetricKey) : String :=
  match key.component with
  | some component => key.metric.name ++ "/" ++ component.name
  | none => key.metric.name

end MetricKey

end Forecast
