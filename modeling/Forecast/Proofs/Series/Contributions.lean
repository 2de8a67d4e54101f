import Forecast.Proofs.Collection.Traversal
import Forecast.Proofs.Series.Acceptance
import Forecast.Proofs.Series.Gathering
import Mathlib.Data.List.Induction
import Mathlib.Logic.Unique

/-!
# What contributions amount to

A builder holds what has been contributed, gathered by basis time, and assembling it succeeds just
when there are issuances, all of them are valid, and the metadata can be joined.
-/

namespace Forecast

namespace Contribution

variable {α : Type}

/-- Issuances contributed to the series. -/
def issuances : Contribution α → List (Issuance α)
  | events issuance => [issuance]
  | merge series => series.issuances
  | _ => []

/-- Issuances contributed to the baseline. -/
def baselineIssuances : Contribution α → List (Issuance α)
  | baseline issuance => [issuance]
  | merge series => series.baselineIssuances
  | _ => []

/-- Metadata contributed to the series. -/
def seriesMetadata : Contribution α → List SampleMetadata
  | metadata given => [given]
  | merge series => [series.metadata]
  | _ => []

/-- Metadata contributed to the baseline, by a merged series only if it has one. -/
def metadataOfBaseline : Contribution α → List SampleMetadata
  | baselineMetadata given => [given]
  | merge series => if series.hasBaseline then [series.baselineMetadata] else []
  | _ => []

/-- Reference data contributed. -/
def reference? : Contribution α → Option Climatology
  | climatology given => some given
  | merge series => series.climatology
  | _ => none

/-- Issuances of the series that contributions amount to. -/
def gathered (contributions : List (Contribution α)) : List (Issuance α) :=
  Issuance.gather (contributions.flatMap issuances)

/-- Issuances of the baseline that contributions amount to. -/
def gatheredBaseline (contributions : List (Contribution α)) : List (Issuance α) :=
  Issuance.gather (contributions.flatMap baselineIssuances)

end Contribution

namespace SeriesBuilder

variable {α : Type}

/-- The builder that holds exactly what has been contributed. -/
def holding (contributions : List (Contribution α)) : SeriesBuilder α :=
  { main := Contribution.gathered contributions
    baseline := Contribution.gatheredBaseline contributions
    metadata := contributions.flatMap Contribution.seriesMetadata
    baselineMetadata := contributions.flatMap Contribution.metadataOfBaseline
    climatology := contributions.findSome? Contribution.reference? }

theorem add_holding (contributions : List (Contribution α)) (contribution : Contribution α) :
    (holding contributions).add contribution = holding (contributions ++ [contribution]) := by
  simp only [holding, Contribution.gathered, Contribution.gatheredBaseline, List.flatMap_append,
    List.flatMap_singleton, List.findSome?_append, List.findSome?_singleton]
  cases contribution with
  | events issuance =>
    simp [add, Contribution.issuances, Contribution.baselineIssuances,
      Contribution.seriesMetadata, Contribution.metadataOfBaseline, Contribution.reference?,
      Issuance.contribute_gather]
  | baseline issuance =>
    simp [add, Contribution.issuances, Contribution.baselineIssuances,
      Contribution.seriesMetadata, Contribution.metadataOfBaseline, Contribution.reference?,
      Issuance.contribute_gather]
  | metadata | baselineMetadata | climatology =>
    simp [add, Contribution.issuances, Contribution.baselineIssuances,
      Contribution.seriesMetadata, Contribution.metadataOfBaseline, Contribution.reference?]
  | merge series =>
    simp [add, Contribution.issuances, Contribution.baselineIssuances,
      Contribution.seriesMetadata, Contribution.metadataOfBaseline, Contribution.reference?,
      Issuance.contributeAll_gather]

/-- A builder holds exactly what has been contributed. -/
theorem addAll_eq_holding (contributions : List (Contribution α)) :
    addAll {} contributions = holding contributions := by
  induction contributions using List.reverseRecOn with
  | nil => rfl
  | append_singleton contributions contribution ih =>
    rw [addAll_append, ih, ← add_holding]
    rfl

variable [Sample α]

/-- The series that a builder with the given metadata stands for. -/
def toSeries (builder : SeriesBuilder α) (metadata baselineMetadata : SampleMetadata) :
    TimeSeries α :=
  { main := Storage.ofIssuances builder.main
    baseline :=
      if builder.baseline.isEmpty then none else some (Storage.ofIssuances builder.baseline)
    metadata
    baselineMetadata
    climatology := builder.climatology }

/-- Assembling makes its checks one after the other. -/
theorem assemble_eq (builder : SeriesBuilder α) :
    builder.assemble =
      if builder.main.isEmpty then .error (.empty .issuances)
      else
        Issuance.checkAll builder.main >>= fun _ =>
        Issuance.checkAll builder.baseline >>= fun _ =>
        SampleMetadata.resolve builder.metadata >>= fun metadata =>
        SampleMetadata.resolve builder.baselineMetadata >>= fun baselineMetadata =>
        .ok (builder.toSeries (metadata.getD {}) (baselineMetadata.getD (metadata.getD {}))) := by
  rw [assemble]
  cases builder.main.isEmpty <;> rfl

/-- When assembling succeeds, and with what. -/
theorem assemble_eq_ok_iff {builder : SeriesBuilder α} {series : TimeSeries α} :
    builder.assemble = .ok series ↔
      builder.main ≠ [] ∧ (∀ issuance ∈ builder.main, issuance.Valid)
        ∧ (∀ issuance ∈ builder.baseline, issuance.Valid)
        ∧ ∃ metadata, SampleMetadata.resolve builder.metadata = .ok metadata
          ∧ ∃ baselineMetadata,
            SampleMetadata.resolve builder.baselineMetadata = .ok baselineMetadata
              ∧ builder.toSeries (metadata.getD {}) (baselineMetadata.getD (metadata.getD {}))
                = series := by
  rw [assemble_eq, ← Issuance.checkAll_eq_ok_iff, ← Issuance.checkAll_eq_ok_iff]
  cases main : builder.main with
  | nil => simp
  | cons first rest => simp [bind_eq_ok_iff, Unique.exists_iff]

end SeriesBuilder

end Forecast
