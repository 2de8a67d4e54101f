import Forecast.Proofs.Collection.Bisection
import Forecast.Proofs.Series.Regularity

/-!
# Steady series

A regular series is steady if its series is sound and on steps, and its step is positive.  Building
and checking make steady series, and every filter, view and selection of a steady series is steady
again, although none of them repeats the check.
-/

namespace Forecast

namespace RegularSeries

variable {α : Type}

/-! ## The check of steps -/

theorem checkIssuances_eq_ok_iff (part : SeriesPart) {step : Duration} {count : Nat}
    {issuances : List (Issuance α)} :
    checkIssuances part step count issuances = .ok () ↔
      ∀ issuance ∈ issuances, issuance.leads = step.multiples count := by
  induction issuances with
  | nil => simp [checkIssuances, pure, Except.pure]
  | cons issuance rest ih =>
    have length : issuance.leads.length = issuance.events.length := List.length_map ..
    rw [checkIssuances, List.forall_mem_cons, ← ih]
    by_cases counts : issuance.events.length = count
    · have onStep : LeadCheck.firstOff? step issuance.leads = none ↔
          issuance.leads = step.multiples count := by
        rw [LeadCheck.firstOff?_eq_none_iff, length, counts]
      rw [← onStep]
      cases LeadCheck.firstOff? step issuance.leads with
      | none => simp [counts]
      | some check => simp [counts, throw, throwThe, MonadExceptOf.throw]
    · have off : issuance.leads ≠ step.multiples count := by
        intro same
        apply counts
        rw [← length, same, Duration.length_multiples]
      simp [counts, off, bind, Except.bind, throw, throwThe, MonadExceptOf.throw]

theorem checkSteps_eq_ok_iff {series : TimeSeries α} {step : Duration} :
    checkSteps series step = .ok () ↔
      Duration.zero < step ∧ ∃ count, series.OnSteps step count := by
  rw [checkSteps]
  by_cases tooShort : step ≤ Duration.zero
  · have notPositive : ¬Duration.zero < step := Int.not_lt.mpr tooShort
    simp [tooShort, notPositive, bind, Except.bind, throw, throwThe, MonadExceptOf.throw]
  · have positive : Duration.zero < step := Duration.not_le.mp tooShort
    rw [if_neg tooShort]
    generalize counted : (series.issuances ++ series.baselineIssuances).head?.elim 0
      (fun issuance => issuance.events.length) = count
    have accepted : (do
          checkIssuances .main step count series.issuances
          checkIssuances .baseline step count series.baselineIssuances) = .ok () ↔
        series.OnSteps step count := by
      rw [TimeSeries.OnSteps, TimeSeries.everyIssuance, List.forall_mem_append,
        ← checkIssuances_eq_ok_iff .main, ← checkIssuances_eq_ok_iff .baseline]
      cases checkIssuances .main step count series.issuances <;> simp [bind, Except.bind]
    refine accepted.trans ⟨fun onSteps => ⟨positive, count, onSteps⟩, ?_⟩
    rintro ⟨-, others, onSteps⟩
    -- The check counts the events of the first issuance, of which there may be none.
    cases every : series.everyIssuance with
    | nil => simp [TimeSeries.OnSteps, every]
    | cons first rest =>
      have member : first ∈ series.everyIssuance := every ▸ List.mem_cons_self
      have lengths := onSteps.length_events member
      rw [TimeSeries.everyIssuance] at every
      rw [every] at counted
      obtain rfl : others = count := lengths.symm.trans counted
      exact onSteps

theorem ofSeries_eq_ok_iff {series : TimeSeries α} {step : Duration} {regular : RegularSeries α} :
    ofSeries series step = .ok regular ↔
      regular = ⟨series, step⟩ ∧ Duration.zero < step ∧ ∃ count, series.OnSteps step count := by
  rw [ofSeries, ← checkSteps_eq_ok_iff]
  cases checkSteps series step with
  | error => simp
  | ok => simp [eq_comm]

/-- When building succeeds, and with what. -/
theorem build_eq_ok_iff [Sample α] {builder : RegularBuilder α} {regular : RegularSeries α} :
    builder.build = .ok regular ↔
      builder.step = some regular.step ∧ builder.inner.assemble = .ok regular.series
        ∧ Duration.zero < regular.step ∧ ∃ count, regular.series.OnSteps regular.step count := by
  rw [RegularBuilder.build]
  cases known : builder.step with
  | none => simp [throw, throwThe, MonadExceptOf.throw]
  | some step =>
    by_cases tooShort : step ≤ Duration.zero
    · have notPositive : ¬Duration.zero < step := Int.not_lt.mpr tooShort
      simp only [if_pos tooShort, throw, throwThe, MonadExceptOf.throw, reduceCtorEq, false_iff]
      rintro ⟨same, -, positive, -⟩
      obtain rfl := Option.some.inj same
      exact notPositive positive
    · simp only [if_neg tooShort]
      cases assembled : builder.inner.assemble with
      | error => simp [throw, throwThe, MonadExceptOf.throw]
      | ok series =>
        simp only [ofSeries_eq_ok_iff, Option.some.injEq, Except.ok.injEq]
        constructor
        · rintro ⟨rfl, accepted⟩
          exact ⟨rfl, rfl, accepted⟩
        · rintro ⟨rfl, rfl, accepted⟩
          exact ⟨rfl, accepted⟩

/-- What holds of every regular series. -/
structure Steady [Sample α] (regular : RegularSeries α) : Prop where
  /-- The series is sound. -/
  sound : regular.series.Sound
  /-- The step is positive. -/
  positive : Duration.zero < regular.step
  /-- All issuances are on the same number of steps. -/
  even : ∃ count, regular.series.OnSteps regular.step count

/-- A filter of leads keeps the multiples of the first lead that it keeps. -/
theorem exists_of_filterByLead {regular result : RegularSeries α} {keep : Duration → Bool}
    (kept : regular.filterByLead keep = .ok (some result)) :
    ∃ count, result.step ∈ regular.series.leads
      ∧ regular.series.leads.filter keep = result.step.multiples count
      ∧ regular.series.filterByLead? (fun lead =>
          (bisect (fun kept => compare kept lead) (result.step.multiples count)).isSome)
        = some result.series := by
  rw [RegularSeries.filterByLead] at kept
  cases split : regular.series.leads.filter keep with
  | nil =>
    rw [split] at kept
    cases kept
  | cons step rest =>
    rw [split] at kept
    cases onStep : LeadCheck.firstOff? step (step :: rest) with
    | some check =>
      simp only [onStep] at kept
      cases kept
    | none =>
      simp only [onStep] at kept
      obtain ⟨series, seriesKept, rfl⟩ := Option.map_eq_some_iff.mp (Except.ok.inj kept)
      have retained : step :: rest = step.multiples (step :: rest).length :=
        LeadCheck.firstOff?_eq_none_iff.mp onStep
      refine ⟨(step :: rest).length, ?_, retained, ?_⟩
      · exact List.mem_of_mem_filter (split ▸ List.mem_cons_self)
      · rw [← retained]
        exact seriesKept

namespace Steady

section

variable [Sample α]

theorem of_ofSeries {series : TimeSeries α} (sound : series.Sound) {step : Duration}
    {regular : RegularSeries α} (accepted : ofSeries series step = .ok regular) :
    regular.Steady := by
  obtain ⟨rfl, positive, even⟩ := ofSeries_eq_ok_iff.mp accepted
  exact ⟨sound, positive, even⟩

/-- A steady series passes the check of steps. -/
theorem ofSeries_eq {regular : RegularSeries α} (steady : regular.Steady) :
    ofSeries regular.series regular.step = .ok regular :=
  ofSeries_eq_ok_iff.mpr ⟨rfl, steady.positive, steady.even⟩

theorem of_build {builder : RegularBuilder α} {contributions : List (Contribution α)}
    (holds : builder.inner = SeriesBuilder.addAll {} contributions)
    {regular : RegularSeries α} (built : builder.build = .ok regular) : regular.Steady := by
  obtain ⟨-, assembled, positive, even⟩ := build_eq_ok_iff.mp built
  rw [holds] at assembled
  exact ⟨.of_assemble assembled, positive, even⟩

/-! ## Filters -/

theorem filterByBasis? {regular result : RegularSeries α} (steady : regular.Steady)
    {keep : Instant → Bool} (kept : regular.filterByBasis? keep = some result) :
    result.Steady := by
  rw [RegularSeries.filterByBasis?] at kept
  split at kept
  · obtain rfl := Option.some.inj kept
    exact steady
  · obtain ⟨series, seriesKept, rfl⟩ := Option.map_eq_some_iff.mp kept
    obtain ⟨count, onSteps⟩ := steady.even
    refine ⟨steady.sound.filterByBasis? seriesKept, steady.positive, count, ?_⟩
    intro issuance member
    obtain ⟨old, inOld, nonempty, rfl⟩ := TimeSeries.exists_of_rebuild? seriesKept member
    rw [← onSteps old inOld]
    split
    · rfl
    · rename_i dropped
      exact absurd (if_neg dropped) nonempty

theorem isSome_bisect_compare_iff {leads : List Duration}
    (ascending : StrictlyAscending leads) {lead : Duration} :
    (bisect (fun kept => compare kept lead) leads).isSome ↔ lead ∈ leads := by
  have ascends : Ascends (fun kept => compare kept lead) leads :=
    ascends_of_pairwise ascending lead
  rw [isSome_bisect_iff ascends]
  constructor
  · rintro ⟨kept, member, equal⟩
    obtain rfl := Std.LawfulEqOrd.eq_of_compare equal
    exact member
  · exact fun member => ⟨lead, member, Std.ReflCmp.compare_self⟩

/-- A lead is found among those that are kept just if it is kept itself. -/
theorem isSome_bisect_filter {leads : List Duration} (ascending : StrictlyAscending leads)
    (keep : Duration → Bool) {lead : Duration} (isLead : lead ∈ leads) :
    (bisect (fun kept => compare kept lead) (leads.filter keep)).isSome = keep lead := by
  rw [Bool.eq_iff_iff, isSome_bisect_compare_iff (ascending.filter _), List.mem_filter]
  exact and_iff_right isLead

theorem filterByLead {regular result : RegularSeries α} (steady : regular.Steady)
    {keep : Duration → Bool} (kept : regular.filterByLead keep = .ok (some result)) :
    result.Steady := by
  obtain ⟨count, onSteps⟩ := steady.even
  have leads : regular.series.leads = regular.step.multiples count :=
    onSteps.leads_eq steady.sound steady.positive
  obtain ⟨retained, isLead, split, seriesKept⟩ := exists_of_filterByLead kept
  rw [leads] at isLead
  have positive : Duration.zero < result.step :=
    Duration.pos_of_mem_multiples steady.positive isLead
  refine ⟨steady.sound.filterByLead? seriesKept, positive, retained, ?_⟩
  intro issuance member
  obtain ⟨old, inOld, -, rfl⟩ := TimeSeries.exists_of_rebuild? seriesKept member
  have same : ∀ lead ∈ old.leads,
      (bisect (fun kept => compare kept lead) (result.step.multiples retained)).isSome
        = keep lead := by
    intro lead isOld
    rw [onSteps old inOld, ← leads] at isOld
    rw [← split]
    exact isSome_bisect_filter regular.series.leads_ascend keep isOld
  calc
    _ = old.leads.filter fun lead =>
        (bisect (fun kept => compare kept lead) (result.step.multiples retained)).isSome :=
      old.leads_filter _
    _ = regular.series.leads.filter keep := by
      rw [List.filter_congr same, onSteps old inOld, ← leads]
    _ = result.step.multiples retained := split

/-! ## Views -/

theorem narrow {regular : RegularSeries α} (steady : regular.Steady) {index : Nat}
    (visible : index < regular.series.main.visible.length) (basis : Instant) :
    Steady ⟨regular.series.narrow index basis, regular.step⟩ := by
  obtain ⟨count, onSteps⟩ := steady.even
  refine ⟨steady.sound.narrow visible basis, steady.positive, count, ?_⟩
  exact fun issuance member => onSteps issuance (TimeSeries.mem_of_narrow visible member)

theorem basisItem {regular item : RegularSeries α} (steady : regular.Steady) {index : Nat}
    (taken : Cursor.item? regular.byBasis index = some item) : item.Steady := by
  obtain ⟨position, span, found, rfl⟩ := exists_of_byBasis_item? taken
  obtain ⟨within, -⟩ := List.getElem?_eq_some_iff.mp found
  exact steady.narrow within span.basis

theorem leadItem {regular item : RegularSeries α} (steady : regular.Steady) {index : Nat}
    (taken : Cursor.item? regular.byLead index = some item) : item.Steady := by
  obtain ⟨isLead, atLead⟩ := exists_of_byLead_item? taken
  obtain ⟨count, onSteps⟩ := steady.even
  rw [onSteps.leads_eq steady.sound steady.positive] at isLead
  have positive := Duration.pos_of_mem_multiples steady.positive isLead
  refine ⟨steady.sound.atLead? atLead, positive, 1, ?_⟩
  intro issuance member
  obtain ⟨old, -, nonempty, rfl⟩ := TimeSeries.exists_of_rebuild? atLead member
  obtain ⟨event, found⟩ : ∃ event, old.eventAt? item.step = some event := by
    apply Option.ne_none_iff_exists'.mp
    intro missing
    apply nonempty
    rw [missing]
    rfl
  have equal := (mem_of_bisectRange found).2
  have lead : old.leadOf event = item.step := Std.LawfulEqOrd.eq_of_compare equal
  rw [Duration.multiples_one, found]
  exact congrArg (fun lead => [lead]) lead

end

/-! ## Members and traces -/

theorem filterByMember? {regular result : RegularSeries EnsemblePair} (steady : regular.Steady)
    {keep : Nat → Bool} (kept : regular.filterByMember? keep = some result) : result.Steady := by
  obtain ⟨series, seriesKept, rfl⟩ := Option.map_eq_some_iff.mp kept
  obtain ⟨count, onSteps⟩ := steady.even
  refine ⟨steady.sound.filterByMember? seriesKept, steady.positive, count, ?_⟩
  intro issuance member
  obtain ⟨old, inOld, selected⟩ := TimeSeries.exists_of_filterByMember? seriesKept member
  rw [Issuance.leads_of_selectMembers? selected]
  exact onSteps old inOld

private theorem exists_of_baseline_trace {regular : RegularSeries EnsemblePair}
    {issuance : Issuance EnsemblePair} {member : Nat} {storage : Storage SinglePair}
    (has : (regular.trace issuance member).series.baseline = some storage) :
    ∃ before issued, regular.series.baseline = some before ∧ issued ∈ before.issuances
      ∧ issued.trace member ≠ []
      ∧ storage = Storage.ofIssuances [⟨issued.basis, issued.trace member⟩] := by
  simp only [RegularSeries.trace, TimeSeries.withStorage, Option.bind_eq_bind,
    Option.bind_eq_some_iff] at has
  obtain ⟨before, had, position, found, issued, atPosition, traced⟩ := has
  obtain ⟨inBaseline, sameBasis⟩ := Storage.issuance?_of_position? found atPosition
  cases split : issued.trace member with
  | nil =>
    rw [split] at traced
    cases traced
  | cons first rest =>
    rw [split, ← sameBasis] at traced
    obtain rfl := Option.some.inj traced
    exact ⟨before, issued, had, inBaseline, by simp [split], by rw [split]⟩

/-- The trace of a member that an issuance has is steady, with that of the baseline. -/
theorem trace {regular : RegularSeries EnsemblePair} (steady : regular.Steady)
    {issuance : Issuance EnsemblePair} (inMain : issuance ∈ regular.series.issuances)
    {member : Nat} (below : member < issuance.width) : (regular.trace issuance member).Steady := by
  have issued : issuance ∈ regular.series.everyIssuance :=
    TimeSeries.mem_everyIssuance.mpr (.inl inMain)
  have sound : issuance.Sound := steady.sound.of_mem_everyIssuance issued
  have nonempty : issuance.trace member ≠ [] := sound.trace_ne_nil_iff.mpr below
  have leads {old : Issuance EnsemblePair} (oldSound : old.Sound)
      (traced : old.trace member ≠ []) :
      Issuance.leads ⟨old.basis, old.trace member⟩ = old.leads := by
    rw [Issuance.leads_eq, Issuance.leads_eq, oldSound.times_trace traced]
  obtain ⟨count, onSteps⟩ := steady.even
  refine ⟨⟨?_, ?_⟩, steady.positive, count, ?_⟩
  · exact .singleton (sound.trace nonempty)
  · intro storage present
    obtain ⟨before, old, had, inBaseline, traced, rfl⟩ := exists_of_baseline_trace present
    exact .singleton (((steady.sound.baseline before had).every old inBaseline).trace traced)
  · intro result isTrace
    rcases TimeSeries.mem_everyIssuance.mp isTrace with inTrace | ⟨storage, has, inTrace⟩
    · change result ∈ (Storage.ofIssuances [_]).issuances at inTrace
      rw [Storage.issuances_ofIssuances, List.mem_singleton] at inTrace
      rw [inTrace, leads sound nonempty]
      exact onSteps issuance issued
    · obtain ⟨before, old, had, inBaseline, traced, rfl⟩ := exists_of_baseline_trace has
      rw [Storage.issuances_ofIssuances, List.mem_singleton] at inTrace
      have inSeries : old ∈ regular.series.everyIssuance :=
        TimeSeries.mem_everyIssuance.mpr (.inr ⟨before, had, inBaseline⟩)
      rw [inTrace, leads (steady.sound.of_mem_everyIssuance inSeries) traced]
      exact onSteps old inSeries

theorem traceItem {regular : RegularSeries EnsemblePair} {item : RegularSeries SinglePair}
    (steady : regular.Steady) {index : Nat}
    (taken : Cursor.item? regular.byTrace index = some item) : item.Steady := by
  obtain ⟨issuance, inMain, member, below, rfl⟩ := exists_of_byTrace_item? taken
  exact steady.trace inMain below

end Steady

end RegularSeries

end Forecast
