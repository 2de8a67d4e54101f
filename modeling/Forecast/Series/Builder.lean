import Forecast.Sample.MetadataUnion
import Forecast.Series.Basic

/-!
# Building series

A series is built from contributions.  Events of equal basis times are gathered in the order of
their contribution, and issuances keep the order in which their basis times first occurred.  Checks
are made when the series is built: those of the issuances come before those of the baseline, and
metadata come last.
-/

namespace Forecast

namespace Issuance

variable {α : Type}

/-- Append events to the issuance of a basis time, or to a new one behind all others. -/
def contribute (basis : Instant) (events : List (Event α)) : List (Issuance α) → List (Issuance α)
  | [] => [⟨basis, events⟩]
  | issuance :: rest =>
      if issuance.basis = basis then ⟨basis, issuance.events ++ events⟩ :: rest
      else issuance :: contribute basis events rest

/-- Contribute several issuances in order. -/
def contributeAll (issuances : List (Issuance α)) (drafts : List (Issuance α)) :
    List (Issuance α) :=
  issuances.foldl (fun drafts issuance => contribute issuance.basis issuance.events drafts) drafts

/-- Valid time of the first event that is not later than the one before it. -/
def firstUnordered? : List (Event α) → Option Instant
  | first :: second :: rest =>
      if second.time ≤ first.time then some second.time else firstUnordered? (second :: rest)
  | _ => none

/-- Width of the first ensemble whose width differs from the expected one. -/
def firstOtherWidth? [Sample α] (expected : Nat) (events : List (Event α)) : Option Nat :=
  (events.map fun event => (Sample.memberCount event.value).getD 0).find? (· != expected)

/-- Accept an issuance with events, in strictly ascending order and of one ensemble width. -/
def check [Sample α] (issuance : Issuance α) : Except DataError Unit :=
  match issuance.events with
  | [] => throw (.emptySeries issuance.basis)
  | first :: rest =>
      match firstUnordered? (first :: rest) with
      | some valid => throw (.unorderedEvents issuance.basis valid)
      | none =>
          match Sample.memberCount first.value with
          | none => pure ()
          | some expected =>
              match firstOtherWidth? expected (first :: rest) with
              | some actual => throw (.ensembleWidthMismatch issuance.basis expected actual)
              | none => pure ()

/-- Accept issuances in order. -/
def checkAll [Sample α] : List (Issuance α) → Except DataError Unit
  | [] => pure ()
  | issuance :: rest => do
      issuance.check
      checkAll rest

end Issuance

/-- One contribution to a series. -/
inductive Contribution (α : Type) where
  | events (issuance : Issuance α)
  /-- Events of an issuance of the baseline. -/
  | baseline (issuance : Issuance α)
  | metadata (metadata : SampleMetadata)
  | baselineMetadata (metadata : SampleMetadata)
  /-- Reference data; the first contribution is kept. -/
  | climatology (climatology : Climatology)
  /-- All that another series holds. -/
  | merge (series : TimeSeries α)

/-- What has been contributed to a series. -/
structure SeriesBuilder (α : Type) where
  /-- Issuances, by first contribution. -/
  main : List (Issuance α) := []
  /-- Issuances of the baseline, by first contribution. -/
  baseline : List (Issuance α) := []
  /-- Metadata, in order. -/
  metadata : List SampleMetadata := []
  /-- Metadata of the baseline, in order. -/
  baselineMetadata : List SampleMetadata := []
  climatology : Option Climatology := none

namespace SeriesBuilder

variable {α : Type}

/-- Add a contribution.  A merged series contributes its metadata always, and the metadata of its
baseline only if it has one. -/
def add (builder : SeriesBuilder α) : Contribution α → SeriesBuilder α
  | .events issuance =>
      { builder with main := Issuance.contribute issuance.basis issuance.events builder.main }
  | .baseline issuance =>
      { builder with
        baseline := Issuance.contribute issuance.basis issuance.events builder.baseline }
  | .metadata metadata => { builder with metadata := builder.metadata ++ [metadata] }
  | .baselineMetadata metadata =>
      { builder with baselineMetadata := builder.baselineMetadata ++ [metadata] }
  | .climatology climatology =>
      { builder with climatology := builder.climatology.or (some climatology) }
  | .merge series =>
      { main := Issuance.contributeAll series.issuances builder.main
        baseline := Issuance.contributeAll series.baselineIssuances builder.baseline
        metadata := builder.metadata ++ [series.metadata]
        baselineMetadata :=
          builder.baselineMetadata
            ++ if series.hasBaseline then [series.baselineMetadata] else []
        climatology := builder.climatology.or series.climatology }

/-- Add contributions in order. -/
def addAll (builder : SeriesBuilder α) (contributions : List (Contribution α)) :
    SeriesBuilder α :=
  contributions.foldl add builder

/-- Check the contributions and put them together, naming the fault in the data otherwise. -/
def assemble [Sample α] (builder : SeriesBuilder α) : Except DataError (TimeSeries α) := do
  if builder.main.isEmpty then throw (.empty .issuances)
  Issuance.checkAll builder.main
  Issuance.checkAll builder.baseline
  let metadata := (← SampleMetadata.resolve builder.metadata).getD {}
  let baselineMetadata := (← SampleMetadata.resolve builder.baselineMetadata).getD metadata
  pure
    { main := Storage.ofIssuances builder.main
      baseline :=
        if builder.baseline.isEmpty then none else some (Storage.ofIssuances builder.baseline)
      metadata
      baselineMetadata
      climatology := builder.climatology }

def build [Sample α] (builder : SeriesBuilder α) : Except Error (TimeSeries α) :=
  builder.assemble.mapError .invalidInput

@[simp]
theorem addAll_append (builder : SeriesBuilder α) (first second : List (Contribution α)) :
    builder.addAll (first ++ second) = (builder.addAll first).addAll second :=
  List.foldl_append

end SeriesBuilder

/-- Build a series from contributions. -/
def TimeSeries.build {α : Type} [Sample α] (contributions : List (Contribution α)) :
    Except Error (TimeSeries α) :=
  (SeriesBuilder.addAll {} contributions).build

end Forecast
