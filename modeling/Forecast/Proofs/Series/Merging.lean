import Forecast.Proofs.Series.Assembly
import Forecast.Proofs.Series.Steady

/-!
# Merged series

Series that are merged one after the other and built amount to their issuances gathered, with the
metadata that all of them resolve to.  Regular series are merged in the same way if their steps are
equal; otherwise the first step that differs from the first of all is refused.
-/

namespace Forecast

/-! ## What is merged -/

namespace TimeSeries

variable {α : Type}

/-- Metadata of the baseline, if there is one. -/
def givenBaselineMetadata? (series : TimeSeries α) : Option SampleMetadata :=
  if series.hasBaseline then some series.baselineMetadata else none

/-- Build a series from series merged in order. -/
def merged [Sample α] (series : List (TimeSeries α)) : Except Error (TimeSeries α) :=
  build (series.map .merge)

end TimeSeries

/-- What series merged in order amount to. -/
theorem SeriesBuilder.holding_merge {α : Type} (series : List (TimeSeries α)) :
    holding (series.map .merge) =
      { main := Issuance.gather (series.flatMap TimeSeries.issuances)
        baseline := Issuance.gather (series.flatMap TimeSeries.baselineIssuances)
        metadata := series.map TimeSeries.metadata
        baselineMetadata := series.filterMap TimeSeries.givenBaselineMetadata?
        climatology := series.findSome? TimeSeries.climatology } := by
  have given : series.flatMap (fun merged => Contribution.metadataOfBaseline (.merge merged))
      = series.filterMap TimeSeries.givenBaselineMetadata? := by
    rw [List.filterMap_eq_flatMap_toList]
    refine List.flatMap_congr fun merged _ => ?_
    rw [Contribution.metadataOfBaseline, TimeSeries.givenBaselineMetadata?]
    cases merged.hasBaseline <;> rfl
  have metadata : series.flatMap (fun merged => Contribution.seriesMetadata (.merge merged))
      = series.map TimeSeries.metadata := List.map_eq_flatMap.symm
  simp only [holding, Contribution.gathered, Contribution.gatheredBaseline, List.flatMap_map,
    List.findSome?_map, given, metadata]
  rfl

namespace TimeSeries

variable {α : Type} [Sample α] {series : List (TimeSeries α)} {result : TimeSeries α}

/-- Without a baseline among sound series there is none to gather. -/
theorem filterMap_given_eq_nil_iff (sound : ∀ merged ∈ series, merged.Sound) :
    series.filterMap givenBaselineMetadata? = [] ↔ series.flatMap baselineIssuances = [] := by
  rw [List.filterMap_eq_nil_iff, List.flatMap_eq_nil_iff]
  refine forall₂_congr fun merged member => ?_
  have hasBaseline := (sound merged member).hasBaseline_iff
  rw [givenBaselineMetadata?, ite_eq_right_iff, ← not_iff_not, ← ne_eq, ← hasBaseline]
  simp

/-- Sound series have issuances to gather. -/
theorem gather_issuances_ne_nil (nonempty : series ≠ []) (sound : ∀ merged ∈ series, merged.Sound) :
    Issuance.gather (series.flatMap issuances) ≠ [] := by
  obtain ⟨merged, member⟩ := List.exists_mem_of_ne_nil _ nonempty
  rw [ne_eq, Issuance.gather_eq_nil_iff, List.flatMap_eq_nil_iff]
  exact fun none => (sound merged member).main.nonempty (none merged member)

/-- What a series holds that is built from merged ones. -/
structure IsMerged (result : TimeSeries α) (series : List (TimeSeries α)) : Prop where
  issuances : result.issuances = Issuance.gather (series.flatMap TimeSeries.issuances)
  baselineIssuances :
    result.baselineIssuances = Issuance.gather (series.flatMap TimeSeries.baselineIssuances)
  metadata : SampleMetadata.resolve (series.map TimeSeries.metadata) = .ok (some result.metadata)
  /-- Metadata of the baseline come from baselines only. -/
  baselineMetadata : SampleMetadata.resolve (series.filterMap givenBaselineMetadata?)
    = .ok result.givenBaselineMetadata?
  /-- The first reference data. -/
  climatology : result.climatology = series.findSome? TimeSeries.climatology

theorem merged_eq_ok_iff :
    merged series = .ok result ↔
      (SeriesBuilder.holding (series.map .merge)).assemble = .ok result := build_eq_ok_iff

theorem IsMerged.of_merged (sound : ∀ merged ∈ series, merged.Sound)
    (built : merged series = .ok result) : result.IsMerged series := by
  rw [merged_eq_ok_iff, SeriesBuilder.holding_merge] at built
  obtain ⟨nonempty, -, -, metadata, resolved, baselineMetadata, baselineResolved, rfl⟩ :=
    SeriesBuilder.assemble_eq_ok_iff.mp built
  obtain ⟨given, rfl⟩ : ∃ given, metadata = some given := by
    apply Option.ne_none_iff_exists'.mp
    rw [ne_eq, SampleMetadata.resolve_eq_none_iff resolved, List.map_eq_nil_iff]
    rintro rfl
    exact nonempty rfl
  have absent : baselineMetadata = none ↔
      Issuance.gather (series.flatMap TimeSeries.baselineIssuances) = [] := by
    rw [SampleMetadata.resolve_eq_none_iff baselineResolved, filterMap_given_eq_nil_iff sound,
      Issuance.gather_eq_nil_iff]
  refine ⟨Storage.issuances_ofIssuances _, ?_, resolved, ?_, rfl⟩
  · rw [TimeSeries.baselineIssuances, SeriesBuilder.toSeries]
    cases Issuance.gather (series.flatMap TimeSeries.baselineIssuances) <;> simp
  · rw [baselineResolved, givenBaselineMetadata?, hasBaseline, SeriesBuilder.toSeries]
    cases gathered : Issuance.gather (series.flatMap TimeSeries.baselineIssuances) with
    | nil => simp [absent.mpr gathered]
    | cons first rest =>
      obtain ⟨given, rfl⟩ : ∃ given, baselineMetadata = some given := by
        apply Option.ne_none_iff_exists'.mp
        simp [absent, gathered]
      rfl

end TimeSeries

/-! ## Regular series -/

namespace RegularBuilder

variable {α : Type}

/-- Merge regular series in order. -/
def mergeAll (builder : RegularBuilder α) (regulars : List (RegularSeries α)) :
    Except Error (RegularBuilder α) :=
  regulars.foldlM merge builder

/-- Once the step is known, the first other step is refused. -/
theorem mergeAll_of_step {builder : RegularBuilder α} {step : Duration}
    (known : builder.step = some step) (regulars : List (RegularSeries α)) :
    builder.mergeAll regulars =
      match regulars.find? fun regular => regular.step != step with
      | some other => .error (.invalidInput (.timeStepMismatch step other.step))
      | none => .ok
          { inner := builder.inner.addAll ((regulars.map RegularSeries.series).map .merge)
            step := some step } := by
  induction regulars generalizing builder with
  | nil =>
    obtain ⟨inner, _⟩ := builder
    obtain rfl := known
    rfl
  | cons regular rest ih =>
    rw [mergeAll, List.foldlM_cons, merge, known]
    by_cases same : step = regular.step
    · have later : (builder.add (.merge regular.series)).mergeAll rest = _ := ih known
      have passed : ((regular :: rest).find? fun regular => regular.step != step)
          = rest.find? fun regular => regular.step != step :=
        List.find?_cons_of_neg (by simp [same])
      rw [passed]
      simp only [if_pos same]
      exact later
    · have found : ((regular :: rest).find? fun regular => regular.step != step) = some regular :=
        List.find?_cons_of_pos (by simpa using Ne.symm same)
      rw [found]
      simp only [if_neg same]
      rfl

end RegularBuilder

theorem RegularBuilder.build_eq {α : Type} [Sample α] (inner : SeriesBuilder α)
    (step : Duration) :
    build ⟨inner, some step⟩ =
      if step ≤ Duration.zero then .error (.invalidInput (.invalidTimeStep (some step)))
      else inner.assemble.mapError .invalidInput >>= fun series =>
        RegularSeries.ofSeries series step := by
  rw [build]
  cases inner.assemble <;> rfl

/-- Build a regular series from regular series merged in order. -/
def RegularSeries.merged {α : Type} [Sample α] (regulars : List (RegularSeries α)) :
    Except Error (RegularSeries α) := do
  (← RegularBuilder.mergeAll {} regulars).build

/-- The first series gives the step, and the first other step is refused. -/
theorem RegularBuilder.mergeAll_cons {α : Type} (first : RegularSeries α)
    (rest : List (RegularSeries α)) :
    mergeAll {} (first :: rest) =
      match rest.find? fun regular => regular.step != first.step with
      | some other => .error (.invalidInput (.timeStepMismatch first.step other.step))
      | none => .ok
          { inner := .holding (((first :: rest).map RegularSeries.series).map .merge)
            step := some first.step } := by
  have known : ((withStep {} first.step).add (.merge first.series) : RegularBuilder α).step
      = some first.step := rfl
  rw [← SeriesBuilder.addAll_eq_holding]
  exact mergeAll_of_step known rest

namespace RegularSeries

variable {α : Type} [Sample α] {first result : RegularSeries α} {rest : List (RegularSeries α)}

theorem merged_of_step (same : ∀ regular ∈ rest, regular.step = first.step) :
    merged (first :: rest) = RegularBuilder.build
      { inner := .holding (((first :: rest).map series).map .merge)
        step := some first.step } := by
  have fits : rest.find? (fun regular => regular.step != first.step) = none := by
    simpa [List.find?_eq_none] using same
  rw [merged, RegularBuilder.mergeAll_cons, fits]
  rfl

/-- When merged regular series build, and what they build. -/
theorem merged_eq_ok_iff :
    merged (first :: rest) = .ok result ↔
      (∀ regular ∈ rest, regular.step = first.step) ∧ result.step = first.step
        ∧ TimeSeries.merged ((first :: rest).map series) = .ok result.series
        ∧ Duration.zero < result.step ∧ ∃ count, result.series.OnSteps result.step count := by
  by_cases same : ∀ regular ∈ rest, regular.step = first.step
  · rw [and_iff_right same, merged_of_step same, build_eq_ok_iff, TimeSeries.merged_eq_ok_iff,
      Option.some_inj]
    exact and_congr_left' eq_comm
  · cases found : rest.find? fun regular => regular.step != first.step with
    | none =>
      exact absurd (by simpa [List.find?_eq_none] using found) same
    | some other =>
      rw [merged, RegularBuilder.mergeAll_cons, found]
      simp only [same, false_and, iff_false]
      rintro ⟨⟩

/-- Series of one step are merged as series are, if what they make is on steps. -/
theorem merged_map {items : List (TimeSeries α)} (nonempty : items ≠ []) {step : Duration}
    (positive : Duration.zero < step)
    (even : ∀ made, TimeSeries.merged items = .ok made → ∃ count, made.OnSteps step count) :
    merged (items.map fun item => ⟨item, step⟩)
      = (TimeSeries.merged items).map fun made => ⟨made, step⟩ := by
  obtain ⟨first, rest, rfl⟩ := List.exists_cons_of_ne_nil nonempty
  have same : (rest.map fun item => (⟨item, step⟩ : RegularSeries α)).map series = rest := by
    rw [List.map_map]
    exact List.map_id _
  have ofStep : ∀ regular ∈ rest.map fun item => (⟨item, step⟩ : RegularSeries α),
      regular.step = RegularSeries.step ⟨first, step⟩ :=
    List.forall_mem_map.mpr fun _ _ => rfl
  have built : TimeSeries.merged (first :: rest) >>= (fun made => ofSeries made step)
      = (TimeSeries.merged (first :: rest)).map fun made => ⟨made, step⟩ := by
    cases outcome : TimeSeries.merged (first :: rest) with
    | error => rfl
    | ok made => exact ofSeries_eq_ok_iff.mpr ⟨rfl, positive, even made outcome⟩
  rw [← built, TimeSeries.merged, TimeSeries.build_eq, List.map_cons, merged_of_step ofStep,
    List.map_cons, same, RegularBuilder.build_eq, if_neg (Duration.not_le.mpr positive)]

end RegularSeries

end Forecast
