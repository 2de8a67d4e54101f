import Forecast.Proofs.Series.Merging
import Forecast.Proofs.Series.Uniform

/-!
# Series gathered from their views

The items of a view share the metadata and the climatology of the series.  Merged again they make a
series of the issuances that they hold between them, which has the metadata of the series; metadata
of the baseline are kept only by a baseline.
-/

namespace Forecast

namespace TimeSeries

variable {α : Type}

/-- An item shares what a series holds beside its issuances. -/
structure Shares (item series : TimeSeries α) : Prop where
  metadata : item.metadata = series.metadata
  baselineMetadata : item.baselineMetadata = series.baselineMetadata
  climatology : item.climatology = series.climatology

theorem withStorage_shares (series : TimeSeries α) (main : Storage α)
    (baseline : Option (Storage α)) : (series.withStorage main baseline).Shares series :=
  ⟨rfl, rfl, rfl⟩

/-- A series of some issuances with what another one holds beside its issuances. -/
def regathered (series : TimeSeries α) (main baseline : List (Issuance α)) : TimeSeries α :=
  { main := .ofIssuances main
    baseline := if baseline.isEmpty then none else some (.ofIssuances baseline)
    metadata := series.metadata
    baselineMetadata := if baseline.isEmpty then series.metadata else series.baselineMetadata
    climatology := series.climatology }

section

variable (series : TimeSeries α) (main baseline : List (Issuance α))

@[simp]
theorem issuances_regathered : (series.regathered main baseline).issuances = main :=
  Storage.issuances_ofIssuances main

@[simp]
theorem baselineIssuances_regathered :
    (series.regathered main baseline).baselineIssuances = baseline := by
  cases baseline <;> simp [regathered, baselineIssuances]

@[simp]
theorem everyIssuance_regathered :
    (series.regathered main baseline).everyIssuance = main ++ baseline := by
  rw [everyIssuance, issuances_regathered, baselineIssuances_regathered]

theorem metadata_regathered : (series.regathered main baseline).metadata = series.metadata := rfl

theorem climatology_regathered :
    (series.regathered main baseline).climatology = series.climatology := rfl

theorem hasBaseline_regathered :
    (series.regathered main baseline).hasBaseline = true ↔ baseline ≠ [] := by
  cases baseline <;> simp [regathered, hasBaseline]

theorem baselineMetadata_regathered :
    (series.regathered main baseline).baselineMetadata
      = if (series.regathered main baseline).hasBaseline then series.baselineMetadata
        else series.metadata := by
  cases baseline <;> rfl

end

variable [Sample α]

/-- A regathered series is the same just if it has the same issuances, and metadata of its baseline
only where there is one. -/
theorem content_regathered_eq_iff {series : TimeSeries α} (sound : series.Sound)
    {baseline : List (Issuance α)} :
    (series.regathered series.issuances baseline).content = series.content ↔
      baseline = series.baselineIssuances
        ∧ (series.hasBaseline = true ∨ series.baselineMetadata = series.metadata) := by
  cases has : series.baseline with
  | none =>
    cases baseline with
    | nil => simp [content, regathered, hasBaseline, baselineIssuances, has, eq_comm, issuances]
    | cons first rest => simp [content, regathered, baselineIssuances, has]
  | some storage =>
    have nonempty : storage.issuances ≠ [] := (sound.baseline storage has).nonempty
    cases baseline with
    | nil => simp [content, regathered, baselineIssuances, has, Ne.symm nonempty]
    | cons first rest => simp [content, regathered, hasBaseline, baselineIssuances, has, issuances]

/-- Items that share what a series holds make the series of the issuances that they hold, if these
pass the check. -/
theorem merged_of_shares {items : List (TimeSeries α)} {series : TimeSeries α}
    (nonempty : items ≠ []) (sound : ∀ item ∈ items, item.Sound)
    (shares : ∀ item ∈ items, item.Shares series) {main baseline : List (Issuance α)}
    (mainGathered : Issuance.gather (items.flatMap issuances) = main)
    (baselineGathered : Issuance.gather (items.flatMap baselineIssuances) = baseline) :
    merged items = (Issuance.checkAll (main ++ baseline) >>= fun _ =>
      .ok (series.regathered main baseline)).mapError .invalidInput := by
  have gathers : main ≠ [] := mainGathered ▸ gather_issuances_ne_nil nonempty sound
  have metadata : SampleMetadata.resolve (items.map TimeSeries.metadata)
      = .ok (some series.metadata) := by
    apply SampleMetadata.resolve_of_forall_eq (by simpa using nonempty)
    exact List.forall_mem_map.mpr fun item member => (shares item member).metadata
  have baselineMetadata : SampleMetadata.resolve (items.filterMap givenBaselineMetadata?)
      = .ok (if baseline.isEmpty then none else some series.baselineMetadata) := by
    -- Items without a baseline have metadata for one, but do not contribute them.
    have given := filterMap_given_eq_nil_iff sound
    rw [← Issuance.gather_eq_nil_iff, baselineGathered] at given
    cases baseline with
    | nil =>
      rw [given.mpr rfl]
      rfl
    | cons first rest =>
      apply SampleMetadata.resolve_of_forall_eq (by simp [given])
      intro next member
      obtain ⟨item, inItems, isGiven⟩ := List.mem_filterMap.mp member
      rw [givenBaselineMetadata?, Option.ite_none_right_eq_some] at isGiven
      rw [← (shares item inItems).baselineMetadata, Option.some.inj isGiven.2]
  have climatology : items.findSome? TimeSeries.climatology = series.climatology := by
    cases has : series.climatology with
    | none =>
      rw [List.findSome?_eq_none_iff, ← has]
      exact fun item member => (shares item member).climatology
    | some given =>
      obtain ⟨first, rest, rfl⟩ := List.exists_cons_of_ne_nil nonempty
      rw [List.findSome?_cons, (shares first List.mem_cons_self).climatology, has]
  have notEmpty : main.isEmpty = false := by simpa [List.isEmpty_iff] using gathers
  rw [merged, build_eq, SeriesBuilder.holding_merge, mainGathered, baselineGathered, climatology,
    SeriesBuilder.assemble_eq]
  simp only [notEmpty, Bool.false_eq_true, if_false, metadata, baselineMetadata,
    Issuance.checkAll_append]
  cases Issuance.checkAll main with
  | error => rfl
  | ok =>
    cases Issuance.checkAll baseline with
    | error => rfl
    | ok => cases baseline <;> rfl

end TimeSeries

/-! ## Putting issuances together again -/

section

variable {α ρ : Type} [Sample α]

/-- Issuances of a series are put together again unless ensembles in one of them are found to differ
in width, which they are not where all values are of one sort. -/
structure Reassembles (outcome : Except Error ρ) (issuances : List (Issuance α))
    (Made : ρ → Prop) : Prop where
  builds : (∃ result, outcome = .ok result) ↔
    ∀ issuance ∈ issuances, Issuance.WidthsAgree issuance.events
  ofOneSort : Sample.OfOneSort α → ∃ result, outcome = .ok result
  made : ∀ result, outcome = .ok result → Made result
  /-- Otherwise it is refused for such a difference. -/
  refused : ∀ error, outcome = .error error →
    ∃ issuance ∈ issuances, ¬Issuance.WidthsAgree issuance.events
      ∧ ∃ expected actual,
        error = .invalidInput (.ensembleWidthMismatch issuance.basis expected actual)

/-- Sound issuances are put together again if they pass the check. -/
theorem Reassembles.of_checkAll {outcome : Except Error ρ} {parts issuances : List (Issuance α)}
    {Made : ρ → Prop} {result : ρ}
    (checked : outcome = (Issuance.checkAll parts >>= fun _ => .ok result).mapError .invalidInput)
    (sound : ∀ part ∈ parts, part.Sound) (same : ∀ part, part ∈ parts ↔ part ∈ issuances)
    (made : Made result) :
    Reassembles outcome issuances Made := by
  have builds : (∃ result, outcome = .ok result) ↔
      ∀ part ∈ parts, Issuance.WidthsAgree part.events := by
    rw [← forall₂_congr fun part member => (sound part member).valid_iff,
      ← Issuance.checkAll_eq_ok_iff, checked]
    simp [mapError_eq_ok_iff, check_bind_eq_ok_iff]
  refine ⟨?_, ?_, ?_, ?_⟩
  · simpa only [same] using builds
  · exact fun sort => builds.mpr fun part member => (sound part member).widthsAgree sort
  · intro other isOther
    rw [checked, mapError_eq_ok_iff, check_bind_eq_ok_iff] at isOther
    obtain rfl := Except.ok.inj isOther.2
    exact made
  · intro error isRefused
    rw [checked, mapError_eq_error_iff] at isRefused
    obtain ⟨cause, isCause, rfl⟩ := isRefused
    obtain failed | ⟨_, -, impossible⟩ := bind_eq_error_iff.mp isCause
    · obtain ⟨before, part, after, rfl, -, fault⟩ := Issuance.checkAll_eq_error_iff.mp failed
      have member : part ∈ before ++ part :: after := by simp
      obtain ⟨differ, expected, actual, rfl⟩ := (sound part member).exists_of_fault fault
      exact ⟨part, (same part).mp member, differ, expected, actual, rfl⟩
    · cases impossible

end

end Forecast
