import Forecast.Proofs.Series.Members
import Forecast.Proofs.Series.Multiples

/-!
# Series on steps

A series is on steps if all its issuances, those of its baseline included, have their events at the
same number of multiples of a step.  Then the multiples are its leads, and the step is the gap that
is read off them.
-/

namespace Forecast

namespace Issuance

variable {α : Type} {issuance : Issuance α}

theorem leads_filter (issuance : Issuance α) (keep : Duration → Bool) :
    leads ⟨issuance.basis, issuance.events.filter fun event => keep (issuance.leadOf event)⟩
      = issuance.leads.filter keep := by
  rw [leads, leads, List.filter_map]
  rfl

/-- Leads ascend strictly, as valid times do. -/
def LeadsAscend (issuance : Issuance α) : Prop := StrictlyAscending issuance.leads

instance (issuance : Issuance α) : Decidable issuance.LeadsAscend :=
  inferInstanceAs (Decidable (issuance.leads.Pairwise _))

/-- Neither the time of issue nor a valid time lies in a leap second. -/
def Plain (issuance : Issuance α) : Prop :=
  issuance.basis.isLeap = false ∧ ∀ event ∈ issuance.events, event.time.isLeap = false

/-- Away from leap seconds, leads ascend as valid times do. -/
theorem Ascending.leadsAscend (ascending : Ascending issuance.events) (plain : issuance.Plain) :
    issuance.LeadsAscend := by
  obtain ⟨basis, times⟩ := plain
  rw [LeadsAscend, StrictlyAscending, leads, List.pairwise_map]
  refine ascending.imp_of_mem fun {earlier later} inEarlier inLater less => ?_
  exact Duration.compare_eq_lt.mpr
    ((Instant.lead_lt_iff basis (times earlier inEarlier) (times later inLater)).mpr less)

/-- Leaving events out keeps leads ascending. -/
theorem LeadsAscend.sublist (ascend : issuance.LeadsAscend) {events : List (Event α)}
    (part : events.Sublist issuance.events) : LeadsAscend ⟨issuance.basis, events⟩ :=
  List.Pairwise.sublist (part.map issuance.leadOf) ascend

/-- A forecast issued a minute before the end of 2016.  Its first event lies in the leap second that
ends the year, the second one in the new year, and yet at a lesser lead. -/
def leapMinute : Issuance Binary64 :=
  ⟨.ofNanoseconds 1483228740000000000,
    [⟨.leapSecond2016, .zero⟩, ⟨.ofNanoseconds 1483228800200000000, .one⟩]⟩

end Issuance

namespace TimeSeries

variable {α β : Type}

/-- The issuances of the series and of its baseline. -/
def everyIssuance (series : TimeSeries α) : List (Issuance α) :=
  series.issuances ++ series.baselineIssuances

/-- The leads of every issuance ascend strictly. -/
def LeadsAscend (series : TimeSeries α) : Prop :=
  ∀ issuance ∈ series.everyIssuance, issuance.LeadsAscend

instance (series : TimeSeries α) : Decidable series.LeadsAscend :=
  inferInstanceAs (Decidable (∀ issuance ∈ series.everyIssuance, issuance.LeadsAscend))

theorem LeadsAscend.main {series : TimeSeries α} (ascend : series.LeadsAscend)
    {issuance : Issuance α} (inMain : issuance ∈ series.issuances) : issuance.LeadsAscend :=
  ascend issuance (List.mem_append_left _ inMain)

/-- No time of issue and no valid time lies in a leap second. -/
def Plain (series : TimeSeries α) : Prop :=
  ∀ issuance ∈ series.everyIssuance, issuance.Plain

/-- All issuances have their events at the first `count` multiples of the step. -/
def OnSteps (series : TimeSeries α) (step : Duration) (count : Nat) : Prop :=
  ∀ issuance ∈ series.everyIssuance, issuance.leads = step.multiples count

theorem mem_everyIssuance {series : TimeSeries α} {issuance : Issuance α} :
    issuance ∈ series.everyIssuance ↔
      issuance ∈ series.main.issuances
        ∨ ∃ storage, series.baseline = some storage ∧ issuance ∈ storage.issuances := by
  rw [everyIssuance, List.mem_append, issuances, baselineIssuances]
  cases series.baseline <;> simp

theorem Sound.of_mem_everyIssuance [Sample α] {series : TimeSeries α} (sound : series.Sound)
    {issuance : Issuance α} (member : issuance ∈ series.everyIssuance) : issuance.Sound := by
  rcases mem_everyIssuance.mp member with inMain | ⟨storage, had, inBaseline⟩
  · exact sound.main.every issuance inMain
  · exact (sound.baseline storage had).every issuance inBaseline

/-- Away from leap seconds, the leads of a sound series ascend. -/
theorem Sound.leadsAscend [Sample α] {series : TimeSeries α} (sound : series.Sound)
    (plain : series.Plain) : series.LeadsAscend := fun issuance member =>
  (sound.of_mem_everyIssuance member).ascending.leadsAscend (plain issuance member)

/-- On steps of a positive length, leads ascend in any case. -/
theorem OnSteps.leadsAscend {series : TimeSeries α} {step : Duration} {count : Nat}
    (onSteps : series.OnSteps step count) (positive : Duration.zero < step) :
    series.LeadsAscend := by
  intro issuance member
  rw [Issuance.LeadsAscend, onSteps issuance member]
  exact Duration.strictlyAscending_multiples positive count

theorem mem_leads {series : TimeSeries α} {lead : Duration} :
    lead ∈ series.leads ↔ ∃ issuance ∈ series.issuances, lead ∈ issuance.leads := by
  rw [leads, mem_sortedDistinct, List.mem_flatMap]

theorem leads_ascend (series : TimeSeries α) : StrictlyAscending series.leads :=
  strictlyAscending_sortedDistinct _

/-- A sound series on steps has as many steps as any of its issuances has events. -/
theorem OnSteps.length_events {series : TimeSeries α} {step : Duration} {count : Nat}
    (onSteps : series.OnSteps step count) {issuance : Issuance α}
    (member : issuance ∈ series.everyIssuance) : issuance.events.length = count := by
  have lengths := congrArg List.length (onSteps issuance member)
  rwa [Issuance.leads, List.length_map, Duration.length_multiples] at lengths

theorem OnSteps.one_le [Sample α] {series : TimeSeries α} (sound : series.Sound)
    {step : Duration} {count : Nat} (onSteps : series.OnSteps step count) : 1 ≤ count := by
  obtain ⟨issuance, inMain⟩ := List.exists_mem_of_ne_nil _ sound.main.nonempty
  have member : issuance ∈ series.everyIssuance := mem_everyIssuance.mpr (.inl inMain)
  rw [← onSteps.length_events member]
  exact List.length_pos_iff.mpr (sound.main.every issuance inMain).nonempty

/-- Leads that all issuances have are the leads of the series. -/
theorem Sound.leads_eq [Sample α] {series : TimeSeries α} (sound : series.Sound)
    {leads : List Duration} (ascending : StrictlyAscending leads)
    (every : ∀ issuance ∈ series.issuances, issuance.leads = leads) : series.leads = leads := by
  refine sortedDistinct_eq ascending ?_
  intro lead
  rw [List.mem_flatMap]
  constructor
  · intro isShared
    obtain ⟨issuance, inMain⟩ := List.exists_mem_of_ne_nil _ sound.main.nonempty
    exact ⟨issuance, inMain, (every issuance inMain).symm ▸ isShared⟩
  · rintro ⟨issuance, inMain, isLead⟩
    exact every issuance inMain ▸ isLead

/-- The leads of a series on steps are the multiples. -/
theorem OnSteps.leads_eq [Sample α] {series : TimeSeries α} (sound : series.Sound)
    {step : Duration} (positive : Duration.zero < step) {count : Nat}
    (onSteps : series.OnSteps step count) : series.leads = step.multiples count :=
  sound.leads_eq (Duration.strictlyAscending_multiples positive count) fun issuance inMain =>
    onSteps issuance (mem_everyIssuance.mpr (.inl inMain))

theorem Sound.nonempty [Sample α] {series : TimeSeries α} (sound : series.Sound) :
    series.issuances ≠ [] := sound.main.nonempty

/-- The gap of a series is that of the leads which all issuances have. -/
theorem Sound.regularGap?_eq_some_iff [Sample α] {series : TimeSeries α} (sound : series.Sound)
    {gap : Duration} :
    series.regularGap? = some gap ↔
      ∃ leads, (∀ issuance ∈ series.issuances, issuance.leads = leads)
        ∧ Duration.EvenlySpaced gap leads := by
  obtain ⟨first, rest, split⟩ := List.exists_cons_of_ne_nil sound.nonempty
  rw [regularGap?, split, Forecast.regularGap?, Option.ite_none_right_eq_some,
    constantGap?_eq_some_iff, List.all_eq_true]
  simp only [beq_iff_eq, List.forall_mem_cons]
  constructor
  · rintro ⟨same, spaced⟩
    exact ⟨first.leads, ⟨rfl, same⟩, spaced⟩
  · rintro ⟨leads, ⟨rfl, same⟩, spaced⟩
    exact ⟨same, spaced⟩

/-- The step of a series on steps is the gap that is read off its leads. -/
theorem OnSteps.regularGap?_eq [Sample α] {series : TimeSeries α} (sound : series.Sound)
    {step : Duration} {count : Nat} (onSteps : series.OnSteps step count) :
    series.regularGap? = some step := by
  have every : ∀ issuance ∈ series.issuances, issuance.leads = step.multiples count :=
    fun issuance inMain => onSteps issuance (mem_everyIssuance.mpr (.inl inMain))
  have spaced := Duration.evenlySpaced_multiples step (onSteps.one_le sound)
  exact sound.regularGap?_eq_some_iff.mpr ⟨step.multiples count, every, spaced⟩

/-! ## Where issuances come from -/

theorem exists_of_rebuild? {change : Issuance α → List (Event β)} {series : TimeSeries α}
    {result : TimeSeries β} (rebuilt : series.rebuild? change = some result)
    {issuance : Issuance β} (member : issuance ∈ result.everyIssuance) :
    ∃ old ∈ series.everyIssuance, change old ≠ [] ∧ issuance = ⟨old.basis, change old⟩ := by
  obtain ⟨main, mainRebuilt, rfl⟩ := Option.map_eq_some_iff.mp rebuilt
  rcases mem_everyIssuance.mp member with inMain | ⟨storage, has, inBaseline⟩
  · obtain ⟨old, inOld, kept⟩ := Storage.exists_of_rebuild mainRebuilt inMain
    exact ⟨old, mem_everyIssuance.mpr (.inl inOld), kept⟩
  · obtain ⟨before, had, baselineRebuilt⟩ := Option.bind_eq_some_iff.mp has
    obtain ⟨old, inOld, kept⟩ := Storage.exists_of_rebuild baselineRebuilt inBaseline
    exact ⟨old, mem_everyIssuance.mpr (.inr ⟨before, had, inOld⟩), kept⟩

theorem mem_of_narrow {series : TimeSeries α} {index : Nat}
    (visible : index < series.main.visible.length) {basis : Instant} {issuance : Issuance α}
    (member : issuance ∈ (series.narrow index basis).everyIssuance) :
    issuance ∈ series.everyIssuance := by
  rcases mem_everyIssuance.mp member with inMain | ⟨storage, has, inBaseline⟩
  · exact mem_everyIssuance.mpr (.inl ((Storage.issuances_narrow_sublist visible).subset inMain))
  · obtain ⟨before, had, narrowed⟩ := Option.bind_eq_some_iff.mp has
    obtain ⟨position, found, rfl⟩ := Option.map_eq_some_iff.mp narrowed
    have within := (List.findIdx?_eq_some_iff_getElem.mp found).1
    have part := (Storage.issuances_narrow_sublist within).subset inBaseline
    exact mem_everyIssuance.mpr (.inr ⟨before, had, part⟩)

theorem exists_of_filterByMember? {series result : TimeSeries EnsemblePair} {keep : Nat → Bool}
    (kept : series.filterByMember? keep = some result) {issuance : Issuance EnsemblePair}
    (member : issuance ∈ result.everyIssuance) :
    ∃ old ∈ series.everyIssuance, old.selectMembers? keep = some issuance := by
  obtain ⟨mainKept, baselineKept⟩ := storages_of_filterByMember? kept
  rcases mem_everyIssuance.mp member with inMain | ⟨storage, has, inBaseline⟩
  · obtain ⟨old, inOld, selected⟩ := Storage.exists_of_selectMembers? mainKept inMain
    exact ⟨old, mem_everyIssuance.mpr (.inl inOld), selected⟩
  · obtain ⟨before, had, beforeKept⟩ := baselineKept storage has
    obtain ⟨old, inOld, selected⟩ := Storage.exists_of_selectMembers? beforeKept inBaseline
    exact ⟨old, mem_everyIssuance.mpr (.inr ⟨before, had, inOld⟩), selected⟩

end TimeSeries

end Forecast
