import Forecast.Proofs.Sample.Sources
import Forecast.Proofs.Series.Contributions

/-!
# When contributions make a series

Contributions make a series just when there are issuances, all gathered issuances are valid, and the
metadata of the series and of the baseline each have one source.  The series then holds exactly what
was gathered.  Otherwise the error names the first fault in that order.
-/

namespace Forecast

/-- A list of issuances is at fault where its first faulty member is. -/
inductive Issuance.FirstFault {α : Type} [Sample α] : List (Issuance α) → DataError → Prop where
  | here {before after : List (Issuance α)} {issuance : Issuance α} {cause : DataError}
      (valid : ∀ earlier ∈ before, earlier.Valid) (fault : issuance.Fault cause) :
      FirstFault (before ++ issuance :: after) cause

theorem Issuance.checkAll_eq_error_iff_firstFault {α : Type} [Sample α]
    {issuances : List (Issuance α)} {cause : DataError} :
    checkAll issuances = .error cause ↔ FirstFault issuances cause := by
  rw [checkAll_eq_error_iff]
  constructor
  · rintro ⟨before, issuance, after, rfl, valid, fault⟩
    exact .here valid fault
  · rintro ⟨valid, fault⟩
    exact ⟨_, _, _, rfl, valid, fault⟩

namespace Contribution

variable {α : Type}

/-- Metadata contributed to the series. -/
def allMetadata (contributions : List (Contribution α)) : List SampleMetadata :=
  contributions.flatMap seriesMetadata

/-- Metadata contributed to the baseline. -/
def allBaselineMetadata (contributions : List (Contribution α)) : List SampleMetadata :=
  contributions.flatMap metadataOfBaseline

variable [Sample α]

/-- Contributions that make a series. -/
structure Accepted (contributions : List (Contribution α)) : Prop where
  /-- There are issuances. -/
  nonempty : gathered contributions ≠ []
  /-- All of them are valid. -/
  main : ∀ issuance ∈ gathered contributions, issuance.Valid
  /-- So are those of the baseline. -/
  baseline : ∀ issuance ∈ gatheredBaseline contributions, issuance.Valid
  /-- The metadata of the series have one source. -/
  metadata : SampleMetadata.OneSource (allMetadata contributions)
  /-- So do those of the baseline. -/
  baselineMetadata : SampleMetadata.OneSource (allBaselineMetadata contributions)

/-- The first fault of contributions that make no series. -/
inductive Rejected (contributions : List (Contribution α)) : DataError → Prop where
  | empty (missing : gathered contributions = []) : Rejected contributions (.empty .issuances)
  | main {cause : DataError}
      (fault : Issuance.FirstFault (gathered contributions) cause) :
      Rejected contributions cause
  | baseline {cause : DataError} (nonempty : gathered contributions ≠ [])
      (main : ∀ issuance ∈ gathered contributions, issuance.Valid)
      (fault : Issuance.FirstFault (gatheredBaseline contributions) cause) :
      Rejected contributions cause
  | metadata {cause : DataError} (nonempty : gathered contributions ≠ [])
      (main : ∀ issuance ∈ gathered contributions, issuance.Valid)
      (baseline : ∀ issuance ∈ gatheredBaseline contributions, issuance.Valid)
      (refused : SampleMetadata.Refused (allMetadata contributions) cause) :
      Rejected contributions cause
  | baselineMetadata {cause : DataError} (nonempty : gathered contributions ≠ [])
      (main : ∀ issuance ∈ gathered contributions, issuance.Valid)
      (baseline : ∀ issuance ∈ gatheredBaseline contributions, issuance.Valid)
      (metadata : SampleMetadata.OneSource (allMetadata contributions))
      (refused : SampleMetadata.Refused (allBaselineMetadata contributions) cause) :
      Rejected contributions cause

end Contribution

/-! ## Rejection -/

namespace SeriesBuilder

variable {α : Type} [Sample α]

theorem assemble_eq_error_iff {builder : SeriesBuilder α} {cause : DataError}
    (nonempty : builder.main ≠ []) :
    builder.assemble = .error cause ↔
      Issuance.FirstFault builder.main cause
        ∨ (∀ issuance ∈ builder.main, issuance.Valid)
          ∧ (Issuance.FirstFault builder.baseline cause
            ∨ (∀ issuance ∈ builder.baseline, issuance.Valid)
              ∧ (SampleMetadata.Refused builder.metadata cause
                ∨ SampleMetadata.OneSource builder.metadata
                  ∧ SampleMetadata.Refused builder.baselineMetadata cause)) := by
  have notEmpty : builder.main.isEmpty = false := by simpa [List.isEmpty_iff] using nonempty
  rw [assemble_eq, notEmpty, if_neg Bool.false_ne_true]
  simp only [bind_eq_error_iff, Unique.exists_iff, PUnit.default_eq_unit,
    Issuance.checkAll_eq_error_iff_firstFault, Issuance.checkAll_eq_ok_iff,
    SampleMetadata.resolve_eq_error_iff, reduceCtorEq, and_false, exists_false, or_false,
    exists_and_right, SampleMetadata.resolve_eq_ok_iff]

/-- Contributions fail to make a series just for their first fault. -/
theorem assemble_holding_eq_error_iff {contributions : List (Contribution α)}
    {cause : DataError} :
    (holding contributions).assemble = .error cause ↔
      Contribution.Rejected contributions cause := by
  by_cases nonempty : Contribution.gathered contributions = []
  · have failed : (holding contributions).assemble = .error (.empty .issuances) := by
      rw [assemble_eq, holding, nonempty]
      rfl
    rw [failed]
    constructor
    · rintro ⟨⟩
      exact .empty nonempty
    · intro rejected
      cases rejected with
      | empty => rfl
      | main fault =>
        rw [nonempty] at fault
        obtain ⟨before, issuance, after, split, -⟩ := Issuance.checkAll_eq_error_iff.mp
          (Issuance.checkAll_eq_error_iff_firstFault.mpr fault)
        simp at split
      | baseline some | metadata some | baselineMetadata some => exact absurd nonempty some
  · rw [assemble_eq_error_iff nonempty]
    constructor
    · rintro (fault | ⟨main, fault | ⟨baseline, refused | ⟨metadata, refused⟩⟩⟩)
      · exact .main fault
      · exact .baseline nonempty main fault
      · exact .metadata nonempty main baseline refused
      · exact .baselineMetadata nonempty main baseline metadata refused
    · intro rejected
      cases rejected with
      | empty missing => exact absurd missing nonempty
      | main fault => exact .inl fault
      | baseline _ main fault => exact .inr ⟨main, .inl fault⟩
      | metadata _ main baseline refused => exact .inr ⟨main, .inr ⟨baseline, .inl refused⟩⟩
      | baselineMetadata _ main baseline metadata refused =>
        exact .inr ⟨main, .inr ⟨baseline, .inr ⟨metadata, refused⟩⟩⟩

end SeriesBuilder

/-! ## Building -/

namespace TimeSeries

variable {α : Type} [Sample α]

theorem build_eq (contributions : List (Contribution α)) :
    build contributions
      = (SeriesBuilder.holding contributions).assemble.mapError .invalidInput := by
  rw [build, SeriesBuilder.addAll_eq_holding]
  rfl

theorem build_eq_ok_iff {contributions : List (Contribution α)} {series : TimeSeries α} :
    build contributions = .ok series ↔
      (SeriesBuilder.holding contributions).assemble = .ok series := by
  rw [build_eq, mapError_eq_ok_iff]

/-- What a built series holds. -/
structure Holds (series : TimeSeries α) (contributions : List (Contribution α)) : Prop where
  /-- The gathered issuances. -/
  main : series.issuances = Contribution.gathered contributions
  /-- The gathered issuances of the baseline. -/
  baseline : series.baselineIssuances = Contribution.gatheredBaseline contributions
  /-- There is a baseline just when something was contributed to it. -/
  hasBaseline : series.hasBaseline = true ↔ Contribution.gatheredBaseline contributions ≠ []
  /-- The first reference data. -/
  climatology : series.climatology = contributions.findSome? Contribution.reference?
  /-- The source of all metadata. -/
  metadata : ∀ given ∈ Contribution.allMetadata contributions,
    given.unit = series.metadata.unit ∧ given.identifier = series.metadata.identifier
  /-- The source of all metadata of the baseline. -/
  baselineMetadata : ∀ given ∈ Contribution.allBaselineMetadata contributions,
    given.unit = series.baselineMetadata.unit
      ∧ given.identifier = series.baselineMetadata.identifier

theorem holds_of_build {contributions : List (Contribution α)} {series : TimeSeries α}
    (built : build contributions = .ok series) : series.Holds contributions := by
  obtain ⟨-, -, -, metadata, resolved, baselineMetadata, baselineResolved, rfl⟩ :=
    SeriesBuilder.assemble_eq_ok_iff.mp (build_eq_ok_iff.mp built)
  obtain ⟨_, sameMetadata, absent, source⟩ := SampleMetadata.resolve_of_oneSource
    (SampleMetadata.resolve_eq_ok_iff.mp ⟨metadata, resolved⟩)
  obtain ⟨_, sameBaseline, baselineAbsent, baselineSource⟩ := SampleMetadata.resolve_of_oneSource
    (SampleMetadata.resolve_eq_ok_iff.mp ⟨baselineMetadata, baselineResolved⟩)
  obtain rfl := Except.ok.inj (resolved.symm.trans sameMetadata)
  obtain rfl := Except.ok.inj (baselineResolved.symm.trans sameBaseline)
  have common {given : List SampleMetadata} {result : Option SampleMetadata}
      {otherwise : SampleMetadata} (absent : result = none ↔ given = [])
      (source : ∀ found ∈ result, ∀ next ∈ given,
        next.unit = found.unit ∧ next.identifier = found.identifier) :
      ∀ next ∈ given, next.unit = (result.getD otherwise).unit
        ∧ next.identifier = (result.getD otherwise).identifier := by
    cases result with
    | none => simp [absent.mp rfl]
    | some found => exact source found rfl
  constructor
  · exact Storage.issuances_ofIssuances _
  · rw [baselineIssuances, SeriesBuilder.toSeries, SeriesBuilder.holding]
    cases Contribution.gatheredBaseline contributions <;> simp
  · rw [hasBaseline, SeriesBuilder.toSeries, SeriesBuilder.holding]
    cases Contribution.gatheredBaseline contributions <;> simp
  · rfl
  · exact common absent source
  · exact common baselineAbsent baselineSource

theorem accepted_iff_build {contributions : List (Contribution α)} :
    Contribution.Accepted contributions ↔ ∃ series, build contributions = .ok series := by
  simp only [build_eq_ok_iff, SeriesBuilder.assemble_eq_ok_iff]
  constructor
  · intro accepted
    obtain ⟨metadata, resolved⟩ := SampleMetadata.resolve_eq_ok_iff.mpr accepted.metadata
    obtain ⟨baselineMetadata, baselineResolved⟩ :=
      SampleMetadata.resolve_eq_ok_iff.mpr accepted.baselineMetadata
    exact ⟨_, accepted.nonempty, accepted.main, accepted.baseline, metadata, resolved,
      baselineMetadata, baselineResolved, rfl⟩
  · rintro ⟨_, nonempty, main, baseline, metadata, resolved, baselineMetadata, baselineResolved, -⟩
    exact ⟨nonempty, main, baseline, SampleMetadata.resolve_eq_ok_iff.mp ⟨_, resolved⟩,
      SampleMetadata.resolve_eq_ok_iff.mp ⟨_, baselineResolved⟩⟩

end TimeSeries

end Forecast
