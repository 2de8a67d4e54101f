import Forecast.Proofs.Series.Filters
import Mathlib.Order.Bounds.Defs
import Mathlib.Order.Interval.Set.Defs

/-!
# Filters of leads of regular series

A filter of leads keeps some multiples of the step of a regular series.  If these are the first
multiples of the least of them, the result is regular, and it is the filtered series beneath with
the least lead that is kept as its step.  Otherwise the first lead that is off is refused.  Filters
that follow one another are refused or not as the one filter by both conditions.
-/

namespace Forecast

/-! ## Leads that are kept -/

namespace TimeSeries

variable {α : Type} {series result : TimeSeries α} {keep : Duration → Bool}

theorem filterByLead?_congr {first second : Duration → Bool}
    (agree : ∀ issuance ∈ series.everyIssuance, ∀ lead ∈ issuance.leads,
      first lead = second lead) :
    series.filterByLead? first = series.filterByLead? second :=
  rebuild?_congr fun issuance member => List.filter_congr fun _ inEvents =>
    agree issuance member _ (List.mem_map_of_mem inEvents)

/-- The leads of a filtered series are those that are kept. -/
theorem leads_of_filterByLead? (kept : series.filterByLead? keep = some result) :
    result.leads = series.leads.filter keep := by
  refine sortedDistinct_eq (series.leads_ascend.filter _) fun lead => ?_
  rw [issuances_of_rebuild? kept, List.mem_flatMap, List.mem_filter, mem_leads]
  constructor
  · rintro ⟨⟨issuance, member, isLead⟩, isKept⟩
    have inFiltered := List.mem_filter.mpr ⟨isLead, isKept⟩
    rw [← Issuance.leads_filter] at inFiltered
    refine ⟨_, Issuance.mem_changed.mpr ⟨issuance, member, ?_, rfl⟩, inFiltered⟩
    rintro nothing
    rw [nothing] at inFiltered
    cases inFiltered
  · rintro ⟨issuance, member, isLead⟩
    obtain ⟨old, inOld, -, rfl⟩ := Issuance.mem_changed.mp member
    rw [Issuance.leads_filter, List.mem_filter] at isLead
    exact ⟨⟨old, inOld, isLead.1⟩, isLead.2⟩

/-- A series keeps events if it keeps one of its leads. -/
theorem isSome_filterByLead? {lead : Duration} (isLead : lead ∈ series.leads)
    (isKept : keep lead = true) : (series.filterByLead? keep).isSome := by
  obtain ⟨issuance, member, isLead⟩ := mem_leads.mp isLead
  obtain ⟨event, inEvents, rfl⟩ := List.mem_map.mp isLead
  exact isSome_rebuild? member (List.ne_nil_of_mem (List.mem_filter.mpr ⟨inEvents, isKept⟩))

end TimeSeries

namespace RegularSeries

variable {α : Type} [Sample α] {regular : RegularSeries α}

namespace Steady

theorem exists_leads_eq (steady : regular.Steady) :
    ∃ count, 1 ≤ count ∧ regular.series.OnSteps regular.step count
      ∧ regular.series.leads = regular.step.multiples count := by
  obtain ⟨count, onSteps⟩ := steady.even
  exact ⟨count, onSteps.one_le steady.sound, onSteps,
    onSteps.leads_eq steady.sound steady.positive⟩

/-- Looking leads up among those that are kept is keeping them: a baseline has no others. -/
theorem filterByLead?_retained (steady : regular.Steady) (keep : Duration → Bool) :
    regular.series.filterByLead? (fun lead =>
        (bisect (fun kept => compare kept lead) (regular.series.leads.filter keep)).isSome)
      = regular.series.filterByLead? keep := by
  obtain ⟨count, -, onSteps, leads⟩ := steady.exists_leads_eq
  refine TimeSeries.filterByLead?_congr fun issuance member lead isLead => ?_
  rw [onSteps issuance member, ← leads] at isLead
  exact isSome_bisect_filter regular.series.leads_ascend keep isLead

/-- The leads that are kept decide alone whether the filter is refused. -/
theorem filterByLead_eq (steady : regular.Steady) (keep : Duration → Bool) :
    regular.filterByLead keep =
      match regular.series.leads.filter keep with
      | [] => .ok none
      | step :: rest =>
          match LeadCheck.firstOff? step (step :: rest) with
          | some check =>
              .error (.invalidInput (.irregularFilter check.actual check.multiple step))
          | none =>
              .ok ((regular.series.filterByLead? keep).map fun series => ⟨series, step⟩) := by
  have retained := steady.filterByLead?_retained keep
  rw [RegularSeries.filterByLead]
  cases split : regular.series.leads.filter keep with
  | nil => rfl
  | cons step rest =>
    rw [split] at retained
    cases checked : LeadCheck.firstOff? step (step :: rest) with
    | some check =>
      simp only [checked]
      rfl
    | none =>
      simp only [checked, retained]
      rfl

end Steady

/-! ## Multiples that are kept -/

/-- The multiples of the step, up to some count, at which leads are kept. -/
def keptMultiples (regular : RegularSeries α) (count : Nat) (keep : Duration → Bool) : Set Nat :=
  {multiple | multiple ∈ Set.Icc 1 count ∧ keep (regular.step.times multiple) = true}

/-- Numbers that are the first multiples of the least of them. -/
def EvenFrom (first : Nat) (numbers : Set Nat) : Prop :=
  IsLeast numbers first
    ∧ ∃ count, 1 ≤ count ∧ numbers = (fun factor => factor * first) '' Set.Icc 1 count

omit [Sample α] in
theorem mem_filter_multiples_iff {count : Nat} {keep : Duration → Bool} {lead : Duration} :
    lead ∈ (regular.step.multiples count).filter keep ↔
      ∃ multiple ∈ regular.keptMultiples count keep, regular.step.times multiple = lead := by
  rw [List.mem_filter, Duration.mem_multiples]
  constructor
  · rintro ⟨⟨multiple, positive, bound, rfl⟩, isKept⟩
    exact ⟨multiple, ⟨⟨positive, bound⟩, isKept⟩, rfl⟩
  · rintro ⟨multiple, ⟨⟨positive, bound⟩, isKept⟩, rfl⟩
    exact ⟨⟨multiple, positive, bound, rfl⟩, isKept⟩

omit [Sample α] in
/-- Multiples are even just if the leads at them are the first multiples of a lead. -/
theorem evenFrom_keptMultiples_iff (positive : Duration.zero < regular.step) {count first : Nat}
    {keep : Duration → Bool} :
    EvenFrom first (regular.keptMultiples count keep) ↔
      ∃ many, 1 ≤ many ∧ (regular.step.multiples count).filter keep
        = (regular.step.times first).multiples many := by
  constructor
  · rintro ⟨⟨⟨⟨firstNonzero, -⟩, -⟩, -⟩, many, nonzero, even⟩
    have firstPositive := Duration.times_pos positive firstNonzero
    refine ⟨many, nonzero, ?_⟩
    -- Both lists ascend, so they are equal as soon as they have the same members.
    refine StrictlyAscending.eq_of_mem_iff
      ((Duration.strictlyAscending_multiples positive count).filter keep)
      (Duration.strictlyAscending_multiples firstPositive many) fun lead => ?_
    rw [mem_filter_multiples_iff, even, Duration.mem_multiples]
    simp only [Duration.times_times, Set.exists_mem_image, Set.mem_Icc, and_assoc]
  · rintro ⟨many, nonzero, split⟩
    have isKept (multiple : Nat) : multiple ∈ regular.keptMultiples count keep ↔
        ∃ factor ∈ Set.Icc 1 many, factor * first = multiple := by
      calc
        _ ↔ regular.step.times multiple ∈ (regular.step.multiples count).filter keep := by
          rw [mem_filter_multiples_iff]
          simp [Duration.times_inj positive]
        _ ↔ _ := by
          rw [split, Duration.mem_multiples]
          simp only [Duration.times_times, Duration.times_inj positive, Set.mem_Icc, and_assoc]
    have firstKept : first ∈ regular.keptMultiples count keep :=
      (isKept first).mpr ⟨1, ⟨Nat.le_refl 1, nonzero⟩, Nat.one_mul first⟩
    refine ⟨⟨firstKept, ?_⟩, many, nonzero, Set.ext isKept⟩
    intro multiple member
    obtain ⟨factor, ⟨factorPositive, -⟩, rfl⟩ := (isKept multiple).mp member
    exact Nat.le_mul_of_pos_left first factorPositive

/-! ## The filter -/

namespace Steady

variable {count : Nat} {keep : Duration → Bool}

theorem exists_filterByLead (steady : regular.Steady) {step : Duration} {many : Nat}
    (nonzero : 1 ≤ many) (retained : regular.series.leads.filter keep = step.multiples many) :
    ∃ series, regular.series.filterByLead? keep = some series
      ∧ regular.filterByLead keep = .ok (some ⟨series, step⟩) := by
  have isFirst : step ∈ step.multiples many := Duration.mem_multiples_self nonzero
  rw [← retained, List.mem_filter] at isFirst
  obtain ⟨series, kept⟩ := Option.isSome_iff_exists.mp
    (TimeSeries.isSome_filterByLead? isFirst.1 isFirst.2)
  obtain ⟨more, rfl⟩ := Nat.exists_eq_add_of_le' nonzero
  have onSteps : LeadCheck.firstOff? step (step.multiples (more + 1)) = none := by
    rw [LeadCheck.firstOff?_eq_none_iff, Duration.length_multiples]
  refine ⟨series, kept, ?_⟩
  rw [steady.filterByLead_eq, retained]
  rw [Duration.multiples, List.range'_succ, List.map_cons, Duration.times_one] at onSteps ⊢
  simp only [onSteps, kept, Option.map_some]

theorem exists_error_filterByLead (steady : regular.Steady)
    (nonempty : regular.series.leads.filter keep ≠ [])
    (uneven : ∀ (step : Duration) (many : Nat), 1 ≤ many →
      regular.series.leads.filter keep ≠ step.multiples many) :
    ∃ step many lead after,
      regular.series.leads.filter keep = step.multiples many ++ lead :: after
        ∧ 1 ≤ many ∧ lead ≠ step.times (many + 1)
        ∧ regular.filterByLead keep
          = .error (.invalidInput (.irregularFilter lead (many + 1) step)) := by
  obtain ⟨step, rest, split⟩ := List.exists_cons_of_ne_nil nonempty
  rw [steady.filterByLead_eq, split]
  rw [split] at uneven
  cases checked : LeadCheck.firstOff? step (step :: rest) with
  | none => exact absurd (LeadCheck.firstOff?_eq_none_iff.mp checked) (uneven _ _ (by simp))
  | some check =>
    obtain ⟨many, after, behind, multiple, expected, off⟩ :=
      LeadCheck.firstOff?_eq_some_iff.mp checked
    rw [expected, multiple] at off
    refine ⟨step, many, check.actual, after, behind, ?_, off, ?_⟩
    · -- The first lead is the first multiple of itself.
      rw [Nat.one_le_iff_ne_zero]
      rintro rfl
      obtain ⟨rfl, -⟩ := List.cons.inj behind
      exact off (Duration.times_one _).symm
    · simp only [checked, multiple]

theorem filterByLead_eq_none_iff (steady : regular.Steady) :
    regular.filterByLead keep = .ok none ↔ regular.series.leads.filter keep = [] := by
  constructor
  · intro nothing
    by_contra nonempty
    by_cases even : ∃ (step : Duration) (many : Nat), 1 ≤ many
        ∧ regular.series.leads.filter keep = step.multiples many
    · obtain ⟨step, many, nonzero, retained⟩ := even
      obtain ⟨series, -, kept⟩ := steady.exists_filterByLead nonzero retained
      rw [nothing] at kept
      cases kept
    · obtain ⟨step, many, lead, after, -, -, -, refused⟩ :=
        steady.exists_error_filterByLead nonempty fun step many nonzero retained =>
          even ⟨step, many, nonzero, retained⟩
      rw [nothing] at refused
      cases refused
  · intro nothing
    rw [steady.filterByLead_eq, nothing]

/-- A filter of a filtered series is refused or not as the one filter by both conditions. -/
theorem filterByLead_filterByLead {result : RegularSeries α} (steady : regular.Steady)
    (kept : regular.filterByLead keep = .ok (some result)) (further : Duration → Bool) :
    result.filterByLead further = regular.filterByLead fun lead => keep lead && further lead := by
  have resultSteady : result.Steady := steady.filterByLead kept
  obtain ⟨many, -, retained, seriesKept⟩ := exists_of_filterByLead kept
  rw [← retained, steady.filterByLead?_retained] at seriesKept
  have leads : result.series.leads.filter further
      = regular.series.leads.filter fun lead => keep lead && further lead := by
    rw [TimeSeries.leads_of_filterByLead? seriesKept, List.filter_filter]
    exact List.filter_congr fun lead _ => Bool.and_comm _ _
  have both := regular.series.filterByLead?_bind_filterByLead? keep further
  rw [seriesKept, Option.bind_some] at both
  rw [resultSteady.filterByLead_eq, steady.filterByLead_eq, leads, both]

end Steady

/-- What a filter of leads makes of a regular series whose issuances have `count` events. -/
structure LeadFilter (regular : RegularSeries α) (count : Nat) (keep : Duration → Bool) :
    Prop where
  /-- Nothing is left just if no multiple is kept. -/
  empty : regular.filterByLead keep = .ok none ↔ regular.keptMultiples count keep = ∅
  /-- A regular series is left just if those that are kept are the multiples of the least. -/
  even : (∃ result, regular.filterByLead keep = .ok (some result)) ↔
    ∃ first, EvenFrom first (regular.keptMultiples count keep)
  /-- Its step is the least lead that is kept, and beneath it is the filtered series. -/
  result : ∀ result, regular.filterByLead keep = .ok (some result) →
    ∀ first, EvenFrom first (regular.keptMultiples count keep) →
      result.step = regular.step.times first
        ∧ regular.series.filterByLead? keep = some result.series
  /-- Otherwise the first lead that is off is refused. -/
  uneven : regular.keptMultiples count keep ≠ ∅ →
    (∀ first, ¬EvenFrom first (regular.keptMultiples count keep)) →
    ∃ step many lead after,
      regular.series.leads.filter keep = step.multiples many ++ lead :: after
        ∧ 1 ≤ many ∧ lead ≠ step.times (many + 1)
        ∧ regular.filterByLead keep
          = .error (.invalidInput (.irregularFilter lead (many + 1) step))
  /-- What is left is filtered as the series is by both conditions. -/
  again : ∀ result, regular.filterByLead keep = .ok (some result) → ∀ further,
    result.filterByLead further = regular.filterByLead fun lead => keep lead && further lead

omit [Sample α] in
theorem keptMultiples_eq_empty_iff {count : Nat} {keep : Duration → Bool} :
    regular.keptMultiples count keep = ∅ ↔ (regular.step.multiples count).filter keep = [] := by
  simp only [List.eq_nil_iff_forall_not_mem, mem_filter_multiples_iff,
    Set.eq_empty_iff_forall_notMem]
  constructor
  · rintro nothing lead ⟨multiple, member, -⟩
    exact nothing multiple member
  · exact fun nothing multiple member => nothing _ ⟨multiple, member, rfl⟩

omit [Sample α] in
/-- If the leads that are kept are the multiples of one, it is the least multiple that is kept. -/
theorem exists_evenFrom (positive : Duration.zero < regular.step) {count many : Nat}
    {keep : Duration → Bool} {step : Duration} (nonzero : 1 ≤ many)
    (retained : (regular.step.multiples count).filter keep = step.multiples many) :
    ∃ first, EvenFrom first (regular.keptMultiples count keep)
      ∧ step = regular.step.times first := by
  have isFirst : step ∈ step.multiples many := Duration.mem_multiples_self nonzero
  rw [← retained, mem_filter_multiples_iff] at isFirst
  obtain ⟨first, -, rfl⟩ := isFirst
  exact ⟨first, (evenFrom_keptMultiples_iff positive).mpr ⟨many, nonzero, retained⟩, rfl⟩

theorem Steady.leadFilter {count : Nat} (steady : regular.Steady)
    (leads : regular.series.leads = regular.step.multiples count) (keep : Duration → Bool) :
    regular.LeadFilter count keep := by
  have positive := steady.positive
  have nothing_iff : regular.filterByLead keep = .ok none ↔
      regular.keptMultiples count keep = ∅ := by
    rw [steady.filterByLead_eq_none_iff, leads, keptMultiples_eq_empty_iff]
  have kept_of_even {first : Nat} (even : EvenFrom first (regular.keptMultiples count keep)) :
      ∃ series, regular.series.filterByLead? keep = some series
        ∧ regular.filterByLead keep = .ok (some ⟨series, regular.step.times first⟩) := by
    obtain ⟨many, nonzero, retained⟩ := (evenFrom_keptMultiples_iff positive).mp even
    exact steady.exists_filterByLead nonzero (leads ▸ retained)
  refine ⟨nothing_iff, ⟨?_, ?_⟩, ?_, ?_, fun result => steady.filterByLead_filterByLead⟩
  · rintro ⟨result, kept⟩
    obtain ⟨many, -, retained, -⟩ := exists_of_filterByLead kept
    rw [leads] at retained
    have nonzero : 1 ≤ many := by
      rw [Nat.one_le_iff_ne_zero]
      rintro rfl
      rw [nothing_iff.mpr (keptMultiples_eq_empty_iff.mpr retained)] at kept
      cases kept
    obtain ⟨first, even, -⟩ := exists_evenFrom positive nonzero retained
    exact ⟨first, even⟩
  · rintro ⟨first, even⟩
    obtain ⟨series, -, kept⟩ := kept_of_even even
    exact ⟨_, kept⟩
  · intro result kept first even
    obtain ⟨series, seriesKept, same⟩ := kept_of_even even
    rw [kept, Except.ok.injEq, Option.some.injEq] at same
    exact same ▸ ⟨rfl, seriesKept⟩
  · intro nonempty uneven
    apply steady.exists_error_filterByLead
    · rwa [leads, ne_eq, ← keptMultiples_eq_empty_iff]
    · intro step many nonzero retained
      obtain ⟨first, even, -⟩ := exists_evenFrom positive nonzero (leads ▸ retained)
      exact uneven first even

/-- Filters of leads of reachable regular series keep just the multiples of a lead, and agree with
the filters of the series beneath and with one another. -/
theorem Reachable.lead_filters (reachable : regular.Reachable) :
    ∃ count, 1 ≤ count ∧ regular.series.OnSteps regular.step count
      ∧ ∀ keep, regular.LeadFilter count keep := by
  have steady : regular.Steady := reachable.steady
  obtain ⟨count, nonzero, onSteps, leads⟩ := steady.exists_leads_eq
  exact ⟨count, nonzero, onSteps, steady.leadFilter leads⟩

/-- Five events at the multiples of a step, and a baseline at another time. -/
def fiveSteps : List (Contribution Binary64) :=
  let issuance (basis : Int) : Issuance Binary64 :=
    .zeros basis ([3, 6, 9, 12, 15].map (basis + ·))
  [.events (issuance 0), .baseline (issuance 50)]

/-- Every second lead may be kept, and the first two with the last may not. -/
theorem Reachable.lead_filters_everySecond :
    ∃ series, TimeSeries.build fiveSteps = .ok series
      ∧ RegularSeries.ofSeries series ⟨3⟩ = .ok ⟨series, ⟨3⟩⟩
      ∧ (∃ result,
        RegularSeries.filterByLead ⟨series, ⟨3⟩⟩ (fun lead => lead.nanoseconds % 6 == 0)
          = .ok (some result)
        ∧ result.step = ⟨6⟩
        ∧ ∀ further, result.filterByLead further
          = RegularSeries.filterByLead ⟨series, ⟨3⟩⟩
            fun lead => lead.nanoseconds % 6 == 0 && further lead)
      ∧ RegularSeries.filterByLead ⟨series, ⟨3⟩⟩ (fun lead => lead.nanoseconds ∈ [3, 6, 15])
        = .error (.invalidInput (.irregularFilter ⟨15⟩ 3 ⟨3⟩)) := by
  have series : TimeSeries.Reachable _ := .build (rfl : TimeSeries.build fiveSteps = .ok _)
  have regular : Reachable ⟨_, _⟩ := .ofSeries series ⟨3⟩ rfl
  obtain ⟨count, -, -, filters⟩ := regular.lead_filters
  have kept : RegularSeries.filterByLead ⟨_, ⟨3⟩⟩ (fun lead => lead.nanoseconds % 6 == 0)
      = .ok (some _) := (regular.steady.filterByLead_eq _).trans rfl
  exact ⟨_, rfl, rfl, ⟨_, kept, rfl, (filters _).again _ kept⟩, rfl⟩

end RegularSeries

end Forecast
