import Forecast.Proofs.Series.Reachable
import Forecast.Proofs.Series.StepFaults

/-!
# Shared leads

A series is regular if its issuances have the same list of leads, evenly spaced in the order of the
events.  As a regular series with a given step it is accepted if, besides, the step is the gap and
the least of the leads, and the baseline has them as well.  Where leads ascend, the same set of
leads will do; across a leap second, an even gap may be a negative one.
-/

namespace Forecast

open Duration (EvenlySpaced)

variable {α : Type}

/-- Ascending leads are told by which they are. -/
theorem Issuance.leads_eq_iff {issuance : Issuance α} (ascend : issuance.LeadsAscend)
    {leads : List Duration} (leadsAscend : StrictlyAscending leads) :
    issuance.leads = leads ↔ ∀ lead, lead ∈ issuance.leads ↔ lead ∈ leads := by
  constructor
  · rintro rfl lead
    exact Iff.rfl
  · exact ascend.eq_of_mem_iff leadsAscend

namespace TimeSeries

variable {series : TimeSeries α} {leads : List Duration}

/-- All issuances of the series have these leads in the order of their events. -/
def ListsLeads (series : TimeSeries α) (leads : List Duration) : Prop :=
  ∀ issuance ∈ series.issuances, issuance.leads = leads

/-- All issuances of the series have the same set of leads, here in order. -/
structure SharesLeads (series : TimeSeries α) (leads : List Duration) : Prop where
  ascending : StrictlyAscending leads
  every : ∀ issuance ∈ series.issuances, ∀ lead, lead ∈ issuance.leads ↔ lead ∈ leads

/-- The issuances of the baseline have the leads of those of the series in the same order. -/
def BaselineListsLeads (series : TimeSeries α) : Prop :=
  ∀ issued ∈ series.baselineIssuances, ∀ issuance ∈ series.issuances, issued.leads = issuance.leads

/-- The issuances of the baseline have the same set of leads as those of the series. -/
def BaselineSharesLeads (series : TimeSeries α) : Prop :=
  ∀ issued ∈ series.baselineIssuances, ∀ issuance ∈ series.issuances,
    ∀ lead, lead ∈ issued.leads ↔ lead ∈ issuance.leads

/-- What makes a series regular, and what makes a regular series of it, given what it means that all
issuances have some leads, and that the baseline has those of the series. -/
structure IsRegularBy (series : TimeSeries α) (Have : List Duration → Prop)
    (baselineHas : Prop) : Prop where
  /-- All issuances have evenly spaced leads. -/
  isRegular : series.isRegular = true ↔ ∃ leads gap, Have leads ∧ EvenlySpaced gap leads
  /-- The gap is that of these leads. -/
  regularGap? : ∀ gap, series.regularGap? = some gap ↔ ∃ leads, Have leads ∧ EvenlySpaced gap leads
  /-- A step must be the gap and the least lead, and the baseline must have the leads. -/
  accepted : ∀ step, (∃ regular, RegularSeries.ofSeries series step = .ok regular) ↔
    Duration.zero < step ∧ series.regularGap? = some step ∧ Least (· ∈ series.leads) step
      ∧ baselineHas

/-- Where leads ascend, issuances of the baseline share a set of leads just if they list it. -/
theorem LeadsAscend.baselineListsLeads_iff (ascend : series.LeadsAscend) :
    series.BaselineListsLeads ↔ series.BaselineSharesLeads :=
  forall₂_congr fun issued inBaseline => forall₂_congr fun _ inMain =>
    Issuance.leads_eq_iff (ascend issued (List.mem_append_right _ inBaseline))
      (ascend.main inMain)

variable [Sample α]

/-- Where leads ascend, issuances share a set of leads just if they list it. -/
theorem Sound.listsLeads_iff (sound : series.Sound) (ascend : series.LeadsAscend) :
    series.ListsLeads leads ↔ series.SharesLeads leads := by
  constructor
  · intro lists
    obtain ⟨issuance, inMain⟩ := List.exists_mem_of_ne_nil _ sound.nonempty
    refine ⟨lists issuance inMain ▸ ascend.main inMain, ?_⟩
    intro issuance inMain lead
    rw [lists issuance inMain]
  · intro shares issuance inMain
    rw [Issuance.leads_eq_iff (ascend.main inMain) shares.ascending]
    exact shares.every issuance inMain

/-- A series is on steps of a positive length just if its gap and its least lead are the step and
the baseline has its leads. -/
theorem Sound.onSteps_iff (sound : series.Sound) {step : Duration}
    (positive : Duration.zero < step) :
    (∃ count, series.OnSteps step count) ↔
      series.regularGap? = some step ∧ Least (· ∈ series.leads) step
        ∧ series.BaselineListsLeads := by
  constructor
  · rintro ⟨count, onSteps⟩
    refine ⟨onSteps.regularGap?_eq sound, ?_, ?_⟩
    · rw [onSteps.leads_eq sound positive]
      exact Duration.least_multiples positive (onSteps.one_le sound)
    · intro issued inBaseline issuance inMain
      rw [onSteps issued (List.mem_append_right _ inBaseline),
        onSteps issuance (List.mem_append_left _ inMain)]
  · rintro ⟨gap, least, baselineLists⟩
    obtain ⟨leads, every, spaced⟩ := sound.regularGap?_eq_some_iff.mp gap
    have ascending : StrictlyAscending leads := spaced.strictlyAscending positive
    rw [sound.leads_eq ascending every] at least
    cases leads with
    | nil => exact absurd least.1 List.not_mem_nil
    | cons first rest =>
      obtain rfl : first = step := ascending.least_head.unique least
      have multiples := Duration.cons_eq_multiples_iff.mpr ⟨rfl, spaced⟩
      refine ⟨rest.length + 1, List.forall_mem_append.mpr ⟨?_, ?_⟩⟩
      · intro issuance inMain
        rw [← multiples, every issuance inMain]
      · intro issued inBaseline
        obtain ⟨issuance, inMain⟩ := List.exists_mem_of_ne_nil _ sound.nonempty
        rw [baselineLists issued inBaseline issuance inMain, ← multiples, every issuance inMain]

/-- In the order of events, regularity is read off the leads of any sound series. -/
theorem Sound.isRegularBy_listsLeads (sound : series.Sound) :
    series.IsRegularBy series.ListsLeads series.BaselineListsLeads := by
  refine ⟨?_, fun _ => sound.regularGap?_eq_some_iff, fun step => ?_⟩
  · rw [isRegular, Option.isSome_iff_exists]
    simp only [sound.regularGap?_eq_some_iff]
    exact exists_comm
  · simp only [RegularSeries.ofSeries_eq_ok_iff, exists_eq_left]
    exact and_congr_right fun positive => sound.onSteps_iff positive

/-- Two issuances at leads of two and three seconds, and the first of them as baseline. -/
def secondsLate : List (Contribution Binary64) :=
  let issuance (basis : Int) (seconds : List Int) : Issuance Binary64 :=
    .zeros (basis * Duration.second) (seconds.map (· * Duration.second))
  [.events (issuance 0 [2, 3]), .events (issuance 1 [3, 4]), .baseline (issuance 0 [2, 3])]

end TimeSeries

end Forecast
