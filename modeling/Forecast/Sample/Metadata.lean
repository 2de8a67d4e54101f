import Forecast.Text.Quoted
import Forecast.Threshold.Text
import Forecast.Time.Window

/-!
# Metadata of samples

What a sample of pairs measures and where it comes from: its unit and dataset, and the window and
threshold that selected it.
-/

namespace Forecast

/-- The dataset that a sample was drawn from. -/
structure DatasetIdentifier where
  feature : Option String
  variableName : Option String
  scenario : Option String
  /-- Scenario of the baseline. -/
  baselineScenario : Option String
deriving DecidableEq, Inhabited

namespace DatasetIdentifier

/-- The parts that are present. -/
def parts (identifier : DatasetIdentifier) : List String :=
  [identifier.feature, identifier.variableName, identifier.scenario,
    identifier.baselineScenario].filterMap id

/-- The parts that are present, between commas. -/
def text (identifier : DatasetIdentifier) : String := ",".intercalate identifier.parts

/-- All parts by name, for messages. -/
def description : Option DatasetIdentifier → String
  | none => "None"
  | some identifier =>
      "Some(DatasetIdentifier \x7b feature: " ++ Quoted.option identifier.feature
        ++ ", variable: " ++ Quoted.option identifier.variableName
        ++ ", scenario: " ++ Quoted.option identifier.scenario
        ++ ", baseline_scenario: " ++ Quoted.option identifier.baselineScenario ++ " \x7d)"

end DatasetIdentifier

/-- A unit of measurement, by name. -/
abbrev MeasurementUnit := String

/-- The unit where none is given. -/
def dimensionless : MeasurementUnit := "DIMENSIONLESS"

/-- Description of a sample. -/
structure SampleMetadata where
  /-- Unit of the sample. -/
  unit : MeasurementUnit := dimensionless
  /-- Dataset of the sample. -/
  identifier : Option DatasetIdentifier := none
  /-- Window of the sample. -/
  window : Option TimeWindow := none
  /-- Condition on the sample. -/
  threshold : Option Threshold := none
deriving DecidableEq, Inhabited

namespace SampleMetadata

/-- Same unit and dataset. -/
def sameSource (left right : SampleMetadata) : Bool :=
  left.unit == right.unit && left.identifier == right.identifier

/-- The parts that are present, in brackets. -/
def text (metadata : SampleMetadata) : String :=
  let parts :=
    [some metadata.unit, metadata.identifier.map DatasetIdentifier.text,
      metadata.window.map TimeWindow.text, metadata.threshold.map Threshold.text]
  "[" ++ ",".intercalate (parts.filterMap id) ++ "]"

/-- Unit and dataset, for messages. -/
def sourceText (metadata : SampleMetadata) : String :=
  "unit " ++ metadata.unit ++ " and identity " ++ DatasetIdentifier.description metadata.identifier

theorem sameSource_iff {left right : SampleMetadata} :
    left.sameSource right = true ↔
      left.unit = right.unit ∧ left.identifier = right.identifier := by
  simp [sameSource]

end SampleMetadata

end Forecast
