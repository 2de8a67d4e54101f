import Forecast.Proofs.Series.LeadFilters
import Forecast.Proofs.Time.Bounded

/-!
# Steps and leads in bounded times

Reading off a gap, checking a series against a step, and filtering leads compute differences of
instants and of leads and multiples of a step.  Here they are written with the bounded operations,
which fail where a machine would.  They never fail on series of representable instants whose
issuances have few enough events to be counted, whatever the step and the filter, and compute what
they compute with unbounded ones.

A step times a count may well be out of bounds.  But a multiple past the first is computed only if
the one before was found equal to a lead, which bounds the step.
-/

namespace Forecast

open Duration (longest)
open Instant (reach)

variable {α : Type}

/-- The times of the issuance are representable, and its events can be counted. -/
structure Issuance.InRange (issuance : Issuance α) : Prop where
  basis : issuance.basis.Representable
  valid : ∀ event ∈ issuance.events, event.time.Representable
  /-- Behind the last event, two more multiples are counted. -/
  count : issuance.events.length < greatestInt32 - 1

/-- The issuances of the series and of its baseline are in range. -/
def TimeSeries.InRange (series : TimeSeries α) : Prop :=
  ∀ issuance ∈ series.everyIssuance, issuance.InRange

/-- The issuances of a builder, and those for the baseline, are in range. -/
def SeriesBuilder.InRange (builder : SeriesBuilder α) : Prop :=
  ∀ issuance ∈ builder.main ++ builder.baseline, issuance.InRange

namespace Bounded

/-! ## The calls -/

def leads (issuance : Issuance α) : Option (List Duration) :=
  issuance.events.mapM fun event => lead issuance.basis event.time

/-- Gap between ascending leads, if all gaps are equal; a lone lead is its own gap. -/
def constantGap : List Duration → Option (Option Duration)
  | [] => some none
  | [only] => some (some only)
  | first :: second :: rest => do
      let gap ← sub second first
      let even ← ((second :: rest).zip (first :: second :: rest)).allM fun pair => do
        let between ← sub pair.1 pair.2
        pure (between == gap)
      pure (if even then some gap else none)

/-- Constant gap of the leads that all issuances share, all leads being computed before. -/
def regularGap (series : TimeSeries α) : Option (Option Duration) := do
  match ← series.issuances.mapM leads with
  | [] => pure none
  | first :: rest => if rest.all (· == first) then constantGap first else pure none

/-- The first lead that is off, counted from a multiple on.  The next multiple is counted before
there is another lead to compare. -/
def firstOffFrom (step : Duration) (multiple : Nat) : List Duration → Option (Option LeadCheck)
  | [] => do
      let _ ← next multiple
      pure none
  | actual :: rest => do
      let later ← next multiple
      let expected ← times step multiple
      if actual ≠ expected then pure (some ⟨multiple, expected, actual⟩)
      else firstOffFrom step later rest

/-- The first lead that is not the multiple of the step that it should be. -/
def firstOff (step : Duration) (leads : List Duration) : Option (Option LeadCheck) :=
  firstOffFrom step 1 leads

/-- Accept issuances of `count` events at the multiples of a step. -/
def checkIssuances (part : SeriesPart) (step : Duration) (count : Nat) :
    List (Issuance α) → Option (Except DataError Unit)
  | [] => some (.ok ())
  | issuance :: rest =>
      if issuance.events.length ≠ count then
        some (.error (.stepCountMismatch part issuance.basis count issuance.events.length))
      else do
        let found ← firstOff step (← leads issuance)
        match found with
        | some check => some (.error (.offStep issuance.basis step check.expected check.actual))
        | none => checkIssuances part step count rest

/-- Check a series against a positive step. -/
def checkSteps (series : TimeSeries α) (step : Duration) : Option (Except DataError Unit) :=
  if step ≤ Duration.zero then some (.error (.invalidTimeStep (some step)))
  else do
    let count := series.everyIssuance.head?.elim 0 fun issuance => issuance.events.length
    match ← checkIssuances .main step count series.issuances with
    | .ok () => checkIssuances .baseline step count series.baselineIssuances
    | .error cause => some (.error cause)

/-- A series as a regular one. -/
def ofSeries (series : TimeSeries α) (step : Duration) :
    Option (Except Error (RegularSeries α)) := do
  match ← checkSteps series step with
  | .ok () => some (.ok ⟨series, step⟩)
  | .error cause => some (.error (.invalidInput cause))

/-- Build a regular series.  The gap of the series is read off before it is checked. -/
def build [Sample α] (builder : RegularBuilder α) : Option (Except Error (RegularSeries α)) :=
  match builder.step with
  | none => some (.error (.invalidInput (.invalidTimeStep none)))
  | some step =>
      if step ≤ Duration.zero then some (.error (.invalidInput (.invalidTimeStep (some step))))
      else
        match builder.inner.assemble with
        | .ok series => do
            let _ ← regularGap series
            ofSeries series step
        | .error cause => some (.error (.invalidInput cause))

/-- The events whose lead is kept, all leads being computed.  The gap of the result is read off. -/
def filterSeries (series : TimeSeries α) (keep : Duration → Bool) :
    Option (Option (TimeSeries α)) := do
  let _ ← series.everyIssuance.mapM leads
  match series.filterByLead? keep with
  | some result => do
      let _ ← regularGap result
      some (some result)
  | none => some none

/-- The leads that are kept, as a regular series with the first of them as its step. -/
def filterByLead (regular : RegularSeries α) (keep : Duration → Bool) :
    Option (Except Error (Option (RegularSeries α))) :=
  match regular.series.leads.filter keep with
  | [] => some (.ok none)
  | step :: rest => do
      let retained := step :: rest
      match ← firstOff step retained with
      | some check =>
          some (.error (.invalidInput (.irregularFilter check.actual check.multiple step)))
      | none =>
          let series? ← filterSeries regular.series fun lead =>
            (bisect (fun kept => compare kept lead) retained).isSome
          some (.ok (series?.map fun series => ⟨series, step⟩))

end Bounded

/-! ## Leads in range -/

namespace Issuance.InRange

variable {issuance : Issuance α}

theorem leads_within (inRange : issuance.InRange) {lead : Duration}
    (isLead : lead ∈ issuance.leads) : lead.Within reach := by
  obtain ⟨event, member, rfl⟩ := List.mem_map.mp isLead
  exact inRange.basis.within_reach (inRange.valid event member)

theorem leads_eq (inRange : issuance.InRange) : Bounded.leads issuance = some issuance.leads :=
  mapM_eq_some_map fun event member => Bounded.lead_eq inRange.basis (inRange.valid event member)

theorem length_leads_lt (inRange : issuance.InRange) :
    issuance.leads.length < greatestInt32 - 1 := by
  rw [Issuance.leads, List.length_map]
  exact inRange.count

/-- An issuance that keeps some of its events stays in range. -/
theorem sublist (inRange : issuance.InRange) {events : List (Event α)}
    (kept : events.Sublist issuance.events) : InRange ⟨issuance.basis, events⟩ where
  basis := inRange.basis
  valid event member := inRange.valid event (kept.subset member)
  count := Nat.lt_of_le_of_lt kept.length_le inRange.count

end Issuance.InRange

namespace TimeSeries.InRange

variable {series : TimeSeries α}

theorem main (inRange : series.InRange) : ∀ issuance ∈ series.issuances, issuance.InRange :=
  fun issuance member => inRange issuance (List.mem_append_left _ member)

theorem baseline (inRange : series.InRange) :
    ∀ issuance ∈ series.baselineIssuances, issuance.InRange :=
  fun issuance member => inRange issuance (List.mem_append_right _ member)

theorem leads_within (inRange : series.InRange) {lead : Duration} (isLead : lead ∈ series.leads) :
    lead.Within reach := by
  obtain ⟨issuance, member, isLead⟩ := mem_leads.mp isLead
  exact (inRange.main issuance member).leads_within isLead

theorem filterByLead? (inRange : series.InRange) {keep : Duration → Bool} {result : TimeSeries α}
    (kept : series.filterByLead? keep = some result) : result.InRange := by
  intro issuance member
  obtain ⟨old, inOld, -, rfl⟩ := exists_of_rebuild? kept member
  exact (inRange old inOld).sublist List.filter_sublist

theorem of_assemble [Sample α] {builder : SeriesBuilder α} (inRange : builder.InRange)
    (assembled : builder.assemble = .ok series) : series.InRange := by
  obtain ⟨-, -, -, _, -, _, -, rfl⟩ := SeriesBuilder.assemble_eq_ok_iff.mp assembled
  rw [SeriesBuilder.InRange, List.forall_mem_append] at inRange
  intro issuance member
  rcases mem_everyIssuance.mp member with inMain | ⟨storage, present, inBaseline⟩
  · rw [SeriesBuilder.toSeries, Storage.issuances_ofIssuances] at inMain
    exact inRange.1 issuance inMain
  · simp only [SeriesBuilder.toSeries, Option.ite_none_left_eq_some] at present
    obtain ⟨-, stored⟩ := present
    obtain rfl := Option.some.inj stored
    rw [Storage.issuances_ofIssuances] at inBaseline
    exact inRange.2 issuance inBaseline

end TimeSeries.InRange

/-! ## Gaps -/

namespace Bounded

theorem constantGap_eq {leads : List Duration} (short : ∀ lead ∈ leads, lead.Within reach) :
    constantGap leads = some (constantGap? leads) := by
  match leads with
  | [] => rfl
  | [only] => rfl
  | first :: second :: rest =>
    have even : ((second :: rest).zip (first :: second :: rest)).allM (fun pair => do
          let between ← sub pair.1 pair.2
          pure (between == second - first))
        = some (((second :: rest).zip (first :: second :: rest)).all fun pair =>
          pair.1 - pair.2 == second - first) := by
      refine allM_eq_some_all fun pair member => ?_
      obtain ⟨isLater, isEarlier⟩ := List.of_mem_zip member
      rw [sub_eq (short _ (List.mem_cons_of_mem _ isLater)) (short _ isEarlier)]
      rfl
    rw [constantGap, constantGap?, sub_eq (short second (by simp)) (short first (by simp))]
    exact (Option.bind_some ..).trans (even ▸ rfl)

theorem mapM_leads_eq {issuances : List (Issuance α)}
    (inRange : ∀ issuance ∈ issuances, issuance.InRange) :
    issuances.mapM leads = some (issuances.map Issuance.leads) :=
  mapM_eq_some_map fun issuance member => (inRange issuance member).leads_eq

theorem regularGap_eq {series : TimeSeries α} (inRange : series.InRange) :
    regularGap series = some series.regularGap? := by
  have main := inRange.main
  rw [regularGap, mapM_leads_eq main, TimeSeries.regularGap?]
  cases issuances : series.issuances with
  | nil => rfl
  | cons first rest =>
    rw [issuances] at main
    have gap : constantGap first.leads = some (constantGap? first.leads) :=
      constantGap_eq fun _ => (main first List.mem_cons_self).leads_within
    simp only [List.map_cons, Option.bind_eq_bind, Option.bind_some, Forecast.regularGap?,
      List.all_map, Function.comp_def, gap]
    exact (apply_ite some _ _ _).symm

/-! ## Multiples -/

/-- A comparison with a multiple whose seconds fit, behind which the next one can be counted. -/
def Fits (check : LeadCheck) : Prop := check.expected.FitsSeconds ∧ check.multiple < greatestInt32

/-- All multiples fit with which short leads are compared, if the first of them does. -/
theorem fits_compareFrom {step : Duration} {multiple : Nat} {leads : List Duration}
    (positive : 1 ≤ multiple) (first : (step.times multiple).Within longest)
    (short : ∀ lead ∈ leads, lead.Within reach) (count : multiple + leads.length < greatestInt32) :
    ∀ check ∈ LeadCheck.compareFrom step multiple leads, Fits check := by
  induction leads generalizing multiple with
  | nil => simp [LeadCheck.compareFrom]
  | cons lead rest ih =>
    obtain ⟨leadShort, restShort⟩ := List.forall_mem_cons.mp short
    rw [List.length_cons] at count
    have below : multiple < greatestInt32 := by omega
    by_cases exact : lead = step.times multiple
    · -- The walk goes on from a lead that is the multiple, which bounds the next one.
      subst exact
      have next : (step.times (multiple + 1)).Within longest := .times_succ positive leadShort
      rw [LeadCheck.compareFrom_times_cons]
      exact List.forall_mem_cons.mpr
        ⟨⟨first.fitsSeconds, below⟩, ih (by omega) next restShort (by omega)⟩
    · rw [LeadCheck.compareFrom_cons_of_ne exact, List.forall_mem_singleton]
      exact ⟨first.fitsSeconds, below⟩

/-- The bounded walk is the unbounded one if all multiples of that one fit. -/
theorem firstOffFrom_eq {step : Duration} {multiple : Nat} {leads : List Duration}
    (fits : ∀ check ∈ LeadCheck.compareFrom step multiple leads, Fits check)
    (count : multiple + leads.length < greatestInt32) :
    firstOffFrom step multiple leads
      = some ((LeadCheck.compareFrom step multiple leads).find? LeadCheck.isOff) := by
  induction leads generalizing multiple with
  | nil => rw [firstOffFrom, next, if_pos (show multiple < greatestInt32 from count)]; rfl
  | cons lead rest ih =>
    rw [List.length_cons] at count
    by_cases exact : lead = step.times multiple
    · subst exact
      rw [LeadCheck.compareFrom_times_cons] at fits
      obtain ⟨⟨seconds, below⟩, later⟩ := List.forall_mem_cons.mp fits
      rw [LeadCheck.find?_compareFrom_times_cons, ← ih later (by omega), firstOffFrom, next,
        if_pos below, times, if_pos seconds]
      simp
    · rw [LeadCheck.compareFrom_cons_of_ne exact] at fits
      obtain ⟨seconds, below⟩ := List.forall_mem_singleton.mp fits
      rw [LeadCheck.find?_compareFrom_cons_of_ne exact, firstOffFrom, next, if_pos below, times,
        if_pos seconds]
      simp [exact]

theorem fits_of_within {step : Duration} {leads : List Duration} (bounds : step.Within longest)
    (short : ∀ lead ∈ leads, lead.Within reach) (count : leads.length < greatestInt32 - 1) :
    ∀ check ∈ LeadCheck.compareFrom step 1 leads, Fits check :=
  fits_compareFrom (Nat.le_refl 1) (by rwa [Duration.times_one]) short (by omega)

theorem firstOff_eq {step : Duration} {leads : List Duration} (bounds : step.Within longest)
    (short : ∀ lead ∈ leads, lead.Within reach) (count : leads.length < greatestInt32 - 1) :
    firstOff step leads = some (LeadCheck.firstOff? step leads) :=
  firstOffFrom_eq (fits_of_within bounds short count) (by omega)

/-! ## Checks of steps -/

theorem checkIssuances_eq {part : SeriesPart} {step : Duration} (bounds : step.Within longest)
    {count : Nat} {issuances : List (Issuance α)}
    (inRange : ∀ issuance ∈ issuances, issuance.InRange) :
    checkIssuances part step count issuances
      = some (RegularSeries.checkIssuances part step count issuances) := by
  induction issuances with
  | nil => rfl
  | cons issuance rest ih =>
    obtain ⟨here, later⟩ := List.forall_mem_cons.mp inRange
    have found := firstOff_eq bounds (fun _ => here.leads_within) here.length_leads_lt
    rw [checkIssuances, RegularSeries.checkIssuances]
    by_cases counts : issuance.events.length = count
    · rw [if_neg (not_not.mpr counts), if_neg (not_not.mpr counts), here.leads_eq]
      simp only [Option.bind_eq_bind, Option.bind_some, found]
      cases LeadCheck.firstOff? step issuance.leads with
      | none => exact ih later
      | some check => rfl
    · rw [if_pos counts, if_pos counts]
      rfl

theorem checkSteps_eq {series : TimeSeries α} (inRange : series.InRange) {step : Duration}
    (bounds : step.Within longest) :
    checkSteps series step = some (RegularSeries.checkSteps series step) := by
  rw [checkSteps, RegularSeries.checkSteps, TimeSeries.everyIssuance]
  by_cases short : step ≤ Duration.zero
  · rw [if_pos short, if_pos short]
    rfl
  · rw [if_neg short, if_neg short]
    simp only [checkIssuances_eq bounds inRange.main, checkIssuances_eq bounds inRange.baseline,
      Option.bind_eq_bind, Option.bind_some]
    cases RegularSeries.checkIssuances .main step _ series.issuances <;> rfl

theorem ofSeries_eq {series : TimeSeries α} (inRange : series.InRange) {step : Duration}
    (bounds : step.Within longest) :
    ofSeries series step = some (RegularSeries.ofSeries series step) := by
  rw [ofSeries, RegularSeries.ofSeries, checkSteps_eq inRange bounds]
  cases RegularSeries.checkSteps series step <;> rfl

theorem build_eq [Sample α] {builder : RegularBuilder α} (inRange : builder.inner.InRange)
    (bounds : ∀ step ∈ builder.step, step.Within longest) :
    build builder = some builder.build := by
  rw [build, RegularBuilder.build]
  cases known : builder.step with
  | none => rfl
  | some step =>
    by_cases short : step ≤ Duration.zero
    · simp only [if_pos short]
      rfl
    · simp only [if_neg short]
      cases assembled : builder.inner.assemble with
      | error cause => rfl
      | ok series =>
        have assembledInRange := TimeSeries.InRange.of_assemble inRange assembled
        simp only [regularGap_eq assembledInRange, Option.bind_eq_bind, Option.bind_some]
        exact ofSeries_eq assembledInRange (bounds step known)

/-! ## Filters of leads -/

theorem filterSeries_eq {series : TimeSeries α} (inRange : series.InRange)
    (keep : Duration → Bool) : filterSeries series keep = some (series.filterByLead? keep) := by
  rw [filterSeries, mapM_leads_eq inRange]
  simp only [Option.bind_eq_bind, Option.bind_some]
  cases kept : series.filterByLead? keep with
  | none => rfl
  | some result =>
    simp only [regularGap_eq (inRange.filterByLead? kept), Option.bind_some]

section

variable [Sample α] {regular : RegularSeries α}

/-- A steady series has no more leads than an issuance has events. -/
theorem length_leads_lt (steady : regular.Steady) (inRange : regular.series.InRange) :
    regular.series.leads.length < greatestInt32 - 1 := by
  obtain ⟨count, -, onSteps, leads⟩ := steady.exists_leads_eq
  obtain ⟨issuance, inMain⟩ := List.exists_mem_of_ne_nil _ steady.sound.nonempty
  rw [leads, Duration.length_multiples, ← onSteps.length_events (List.mem_append_left _ inMain)]
  exact (inRange.main issuance inMain).count

/-- Leads that are kept can be compared with the multiples of one of them. -/
theorem retained_bounds (steady : regular.Steady) (inRange : regular.series.InRange)
    {keep : Duration → Bool} {retained : List Duration}
    (split : regular.series.leads.filter keep = retained) :
    (∀ lead ∈ retained, lead.Within reach) ∧ retained.length < greatestInt32 - 1 := by
  subst split
  refine ⟨fun lead isKept => inRange.leads_within (List.mem_of_mem_filter isKept), ?_⟩
  exact Nat.lt_of_le_of_lt (List.length_filter_le ..) (length_leads_lt steady inRange)

theorem filterByLead_eq (steady : regular.Steady) (inRange : regular.series.InRange)
    (keep : Duration → Bool) :
    filterByLead regular keep = some (regular.filterByLead keep) := by
  rw [filterByLead, RegularSeries.filterByLead]
  cases split : regular.series.leads.filter keep with
  | nil => rfl
  | cons step rest =>
    obtain ⟨short, count⟩ := retained_bounds steady inRange split
    have found := firstOff_eq (short step List.mem_cons_self).of_reach short count
    simp only [found, Option.bind_eq_bind, Option.bind_some]
    cases LeadCheck.firstOff? step (step :: rest) with
    | some check => rfl
    | none =>
      simp only [filterSeries_eq inRange, Option.bind_some]
      rfl

theorem fits_filter (steady : regular.Steady) (inRange : regular.series.InRange)
    {keep : Duration → Bool} {step : Duration}
    (first : (regular.series.leads.filter keep).head? = some step) :
    ∀ check ∈ LeadCheck.compareFrom step 1 (regular.series.leads.filter keep), Fits check := by
  obtain ⟨short, count⟩ := retained_bounds steady inRange rfl
  exact fits_of_within (short step (List.mem_of_head? first)).of_reach short count

end

/-! ## All calls -/

/-- Bounded arithmetic never fails.  On series in range, reading off the gap, checking against any
step, building and filtering the leads of a reachable regular series compute what they compute with
unbounded durations: differences of leads and all multiples fit, and all multiples are counted. -/
theorem calls_eq_unbounded [Sample α] :
    (∀ series : TimeSeries α, series.InRange →
      regularGap series = some series.regularGap?
        ∧ (∀ issuance ∈ series.issuances, ∀ earlier ∈ issuance.leads, ∀ later ∈ issuance.leads,
          (later - earlier).FitsSeconds)
        ∧ ∀ step : Duration, step.Within longest →
          ofSeries series step = some (RegularSeries.ofSeries series step)
            ∧ ∀ issuance ∈ series.everyIssuance,
              ∀ check ∈ LeadCheck.compareFrom step 1 issuance.leads, Fits check)
      ∧ (∀ builder : RegularBuilder α, builder.inner.InRange →
        (∀ step ∈ builder.step, step.Within longest) → build builder = some builder.build)
      ∧ ∀ regular : RegularSeries α, regular.Reachable → regular.series.InRange →
        ∀ keep : Duration → Bool,
          filterByLead regular keep = some (regular.filterByLead keep)
            ∧ ∀ step, (regular.series.leads.filter keep).head? = some step →
              ∀ check ∈ LeadCheck.compareFrom step 1 (regular.series.leads.filter keep),
                Fits check := by
  refine ⟨?_, fun builder inRange bounds => build_eq inRange bounds, ?_⟩
  · intro series inRange
    refine ⟨regularGap_eq inRange, ?_, fun step bounds => ⟨ofSeries_eq inRange bounds, ?_⟩⟩
    · intro issuance member earlier isEarlier later isLater
      have here := inRange.main issuance member
      exact ((here.leads_within isLater).sub (here.leads_within isEarlier)).fitsSeconds
    · intro issuance member
      have here := inRange issuance member
      exact fits_of_within bounds (fun _ => here.leads_within) here.length_leads_lt
  · intro regular reachable inRange keep
    exact ⟨filterByLead_eq reachable.steady inRange keep,
      fun step first => fits_filter reachable.steady inRange first⟩

/-- The time from the first instant to the last. -/
def span : Duration := Instant.lead Instant.earliest Instant.latest

/-- One event at the end of time of a forecast that was issued at its beginning. -/
def wholeSpan : List (Contribution Binary64) :=
  [.events ⟨Instant.earliest, [⟨Instant.latest, .zero⟩]⟩]

theorem calls_eq_unbounded_wholeSpan :
    ∃ series, TimeSeries.build wholeSpan = .ok series ∧ series.InRange
      ∧ regularGap series = some (some span)
      ∧ ofSeries series longest
        = some (.error (.invalidInput (.offStep Instant.earliest longest longest span)))
      ∧ build ⟨SeriesBuilder.addAll {} wholeSpan, some span⟩ = some (.ok ⟨series, span⟩)
      ∧ filterByLead ⟨series, span⟩ (fun lead => decide (Duration.zero < lead))
        = some (.ok (some ⟨series, span⟩)) := by
  obtain ⟨onSeries, onBuilder, onRegular⟩ := calls_eq_unbounded (α := Binary64)
  have filled : SeriesBuilder.InRange (SeriesBuilder.addAll {} wholeSpan) :=
    List.forall_mem_singleton.mpr ⟨by decide, by decide, by decide⟩
  have inRange : TimeSeries.InRange _ := .of_assemble filled rfl
  have series : TimeSeries.Reachable _ := .build (rfl : TimeSeries.build wholeSpan = .ok _)
  have regular : RegularSeries.Reachable ⟨_, _⟩ := .ofSeries series span rfl
  obtain ⟨gap, -, steps⟩ := onSeries _ inRange
  have filtered := (onRegular _ regular inRange fun lead => decide (Duration.zero < lead)).1
  rw [regular.steady.filterByLead_eq] at filtered
  exact ⟨_, rfl, inRange, gap, (steps longest (by decide)).1,
    onBuilder ⟨_, some span⟩ filled (by decide), filtered⟩

end Bounded

end Forecast
