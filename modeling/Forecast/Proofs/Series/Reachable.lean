import Forecast.Proofs.Series.Steady

/-!
# Reachable series

A series is reachable if it is built from contributions or taken from a reachable series by a
filter, a view or a selection.  Reachable series are sound, and reachable regular series are steady,
by an induction over the way in which they came about.
-/

namespace Forecast

/-- Builders that are filled from nothing, whatever is contributed. -/
inductive RegularBuilder.Reachable {α : Type} : RegularBuilder α → Prop where
  | empty : Reachable {}
  | withStep {builder : RegularBuilder α} (before : Reachable builder) (step : Duration) :
      Reachable (builder.withStep step)
  | add {builder : RegularBuilder α} (before : Reachable builder)
      (contribution : Contribution α) : Reachable (builder.add contribution)
  | merge {builder merged : RegularBuilder α} (before : Reachable builder)
      {regular : RegularSeries α} (accepted : builder.merge regular = .ok merged) :
      Reachable merged

mutual

/-- Series that come from contributions, filters, views and selections. -/
inductive TimeSeries.Reachable : {α : Type} → [Sample α] → TimeSeries α → Prop where
  | build {α : Type} {_ : Sample α} {contributions : List (Contribution α)} {series : TimeSeries α}
      (built : TimeSeries.build contributions = .ok series) : TimeSeries.Reachable series
  | baseline {α : Type} {_ : Sample α} {series result : TimeSeries α}
      (before : TimeSeries.Reachable series) (taken : series.baselineSeries? = some result) :
      TimeSeries.Reachable result
  | filterByBasis {α : Type} {_ : Sample α} {series result : TimeSeries α}
      (before : TimeSeries.Reachable series) (keep : Instant → Bool)
      (kept : series.filterByBasis? keep = some result) : TimeSeries.Reachable result
  | filterByLead {α : Type} {_ : Sample α} {series result : TimeSeries α}
      (before : TimeSeries.Reachable series) (keep : Duration → Bool)
      (kept : series.filterByLead? keep = some result) : TimeSeries.Reachable result
  | filterByMember {series result : TimeSeries EnsemblePair}
      (before : TimeSeries.Reachable series) (keep : Nat → Bool)
      (kept : series.filterByMember? keep = some result) : TimeSeries.Reachable result
  | basisItem {α : Type} {_ : Sample α} {series item : TimeSeries α}
      (before : TimeSeries.Reachable series) (index : Nat)
      (taken : Cursor.item? series.byBasis index = some item) : TimeSeries.Reachable item
  | leadItem {α : Type} {_ : Sample α} {series item : TimeSeries α}
      (before : TimeSeries.Reachable series) (index : Nat)
      (taken : Cursor.item? series.byLead index = some item) : TimeSeries.Reachable item
  | ofRegular {α : Type} {_ : Sample α} {regular : RegularSeries α}
      (before : RegularSeries.Reachable regular) : TimeSeries.Reachable regular.series

/-- Regular series that are built or checked, or come from others by filters, views and
selections. -/
inductive RegularSeries.Reachable : {α : Type} → [Sample α] → RegularSeries α → Prop where
  | build {α : Type} {_ : Sample α} {builder : RegularBuilder α} {regular : RegularSeries α}
      (filled : builder.Reachable) (built : builder.build = .ok regular) :
      RegularSeries.Reachable regular
  | ofSeries {α : Type} {_ : Sample α} {series : TimeSeries α} {regular : RegularSeries α}
      (before : TimeSeries.Reachable series) (step : Duration)
      (accepted : RegularSeries.ofSeries series step = .ok regular) :
      RegularSeries.Reachable regular
  | filterByBasis {α : Type} {_ : Sample α} {regular result : RegularSeries α}
      (before : RegularSeries.Reachable regular) (keep : Instant → Bool)
      (kept : regular.filterByBasis? keep = some result) : RegularSeries.Reachable result
  | filterByLead {α : Type} {_ : Sample α} {regular result : RegularSeries α}
      (before : RegularSeries.Reachable regular) (keep : Duration → Bool)
      (kept : regular.filterByLead keep = .ok (some result)) : RegularSeries.Reachable result
  | filterByMember {regular result : RegularSeries EnsemblePair}
      (before : RegularSeries.Reachable regular) (keep : Nat → Bool)
      (kept : regular.filterByMember? keep = some result) : RegularSeries.Reachable result
  | basisItem {α : Type} {_ : Sample α} {regular item : RegularSeries α}
      (before : RegularSeries.Reachable regular) (index : Nat)
      (taken : Cursor.item? regular.byBasis index = some item) : RegularSeries.Reachable item
  | leadItem {α : Type} {_ : Sample α} {regular item : RegularSeries α}
      (before : RegularSeries.Reachable regular) (index : Nat)
      (taken : Cursor.item? regular.byLead index = some item) : RegularSeries.Reachable item
  | traceItem {regular : RegularSeries EnsemblePair} {item : RegularSeries SinglePair}
      (before : RegularSeries.Reachable regular) (index : Nat)
      (taken : Cursor.item? regular.byTrace index = some item) : RegularSeries.Reachable item

end

theorem RegularBuilder.Reachable.exists_contributions {α : Type} {builder : RegularBuilder α}
    (reachable : builder.Reachable) :
    ∃ contributions, builder.inner = SeriesBuilder.addAll {} contributions := by
  have added {inner : SeriesBuilder α} {contributions : List (Contribution α)}
      (holds : inner = SeriesBuilder.addAll {} contributions) (contribution : Contribution α) :
      inner.add contribution = SeriesBuilder.addAll {} (contributions ++ [contribution]) := by
    rw [SeriesBuilder.addAll_append, ← holds]
    rfl
  induction reachable with
  | empty => exact ⟨[], rfl⟩
  | withStep _ step ih => exact ih
  | add _ contribution ih =>
    obtain ⟨contributions, holds⟩ := ih
    exact ⟨contributions ++ [contribution], added holds contribution⟩
  | @merge builder merged _ regular accepted ih =>
    obtain ⟨contributions, holds⟩ := ih
    refine ⟨contributions ++ [.merge regular.series], ?_⟩
    rw [← added holds]
    rw [RegularBuilder.merge] at accepted
    split at accepted
    · split at accepted <;> cases accepted
      rfl
    · cases accepted
      rfl

-- The two inductions need each other: a series may have been regular before, and a regular series
-- may be a checked one.
mutual

theorem TimeSeries.Reachable.sound :
    ∀ {α : Type} {_ : Sample α} {series : TimeSeries α}, series.Reachable → series.Sound
  | _, _, _, .build built => .of_build built
  | _, _, _, .baseline before taken => before.sound.baselineSeries? taken
  | _, _, _, .filterByBasis before _ kept => before.sound.filterByBasis? kept
  | _, _, _, .filterByLead before _ kept => before.sound.filterByLead? kept
  | _, _, _, .filterByMember before _ kept => before.sound.filterByMember? kept
  | _, _, _, .basisItem before _ taken => before.sound.basisItem taken
  | _, _, _, .leadItem before _ taken => before.sound.leadItem taken
  | _, _, _, .ofRegular before => before.steady.sound

theorem RegularSeries.Reachable.steady :
    ∀ {α : Type} {_ : Sample α} {regular : RegularSeries α}, regular.Reachable → regular.Steady
  | _, _, _, .build filled built =>
      have ⟨_, holds⟩ := filled.exists_contributions
      .of_build holds built
  | _, _, _, .ofSeries before _ accepted => .of_ofSeries before.sound accepted
  | _, _, _, .filterByBasis before _ kept => before.steady.filterByBasis? kept
  | _, _, _, .filterByLead before _ kept => before.steady.filterByLead kept
  | _, _, _, .filterByMember before _ kept => before.steady.filterByMember? kept
  | _, _, _, .basisItem before _ taken => before.steady.basisItem taken
  | _, _, _, .leadItem before _ taken => before.steady.leadItem taken
  | _, _, _, .traceItem before _ taken => before.steady.traceItem taken

end

namespace RegularSeries

/-- Regularity is never lost: the issuances of a reachable regular series, and those of its
baseline, all have their events at the first multiples of its positive step, and the check of steps
would accept the series again. -/
theorem Reachable.regularity {α : Type} [Sample α] {regular : RegularSeries α}
    (reachable : regular.Reachable) :
    Duration.zero < regular.step
      ∧ (∃ count, 1 ≤ count
        ∧ (∀ issuance ∈ regular.series.issuances,
          issuance.events.length = count ∧ issuance.leads = regular.step.multiples count)
        ∧ (∀ issuance ∈ regular.series.baselineIssuances,
          issuance.events.length = count ∧ issuance.leads = regular.step.multiples count)
        ∧ regular.series.leads = regular.step.multiples count)
      ∧ regular.series.regularGap? = some regular.step
      ∧ RegularSeries.ofSeries regular.series regular.step = .ok regular := by
  have steady : regular.Steady := reachable.steady
  obtain ⟨count, onSteps⟩ := steady.even
  have every : ∀ issuance ∈ regular.series.everyIssuance,
      issuance.events.length = count ∧ issuance.leads = regular.step.multiples count :=
    fun issuance member => ⟨onSteps.length_events member, onSteps issuance member⟩
  rw [TimeSeries.everyIssuance, List.forall_mem_append] at every
  refine ⟨steady.positive, ⟨count, onSteps.one_le steady.sound, every.1, every.2, ?_⟩, ?_, ?_⟩
  · exact onSteps.leads_eq steady.sound steady.positive
  · exact onSteps.regularGap?_eq steady.sound
  · exact steady.ofSeries_eq

/-- Two events at steps of a second, of ensembles of two members, and the same as baseline. -/
def twoSteps : RegularBuilder EnsemblePair :=
  let pair : EnsemblePair := ⟨.zero, [.zero, .one]⟩
  let issuance : Issuance EnsemblePair :=
    ⟨.ofNanoseconds 0, [⟨.ofNanoseconds Duration.second, pair⟩,
      ⟨.ofNanoseconds (2 * Duration.second), pair⟩]⟩
  ((RegularBuilder.withStep {} ⟨Duration.second⟩).add (.events issuance)).add (.baseline issuance)

theorem twoSteps_reachable : twoSteps.Reachable := .add (.add (.withStep .empty _) _) _

theorem Reachable.regularity_trace :
    ∃ regular item, twoSteps.build = .ok regular ∧ Cursor.item? regular.byTrace 1 = some item
      ∧ item.series.regularGap? = some ⟨Duration.second⟩
      ∧ RegularSeries.ofSeries item.series item.step = .ok item := by
  refine ⟨_, _, rfl, rfl, ?_⟩
  exact (Reachable.regularity (.traceItem (.build twoSteps_reachable rfl) 1 rfl)).2.2

end RegularSeries

end Forecast
