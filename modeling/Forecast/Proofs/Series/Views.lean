import Forecast.Proofs.Series.BasisRoundTrip
import Forecast.Proofs.Series.LeadFilters
import Forecast.Proofs.Series.LeadRoundTrip

/-!
# Views as filters

The view by issue narrows the buffer of a series and looks the baseline up by its position; the view
by lead finds the event of every issuance by bisection.  What they give is what the filters by one
basis time and by one lead leave, and the walks through them give an item for each of these.
-/

namespace Forecast

/-! ## By issue -/

namespace Issuance

variable {α : Type} {issuances : List (Issuance α)}

/-- A filter of basis times keeps issuances as a whole. -/
theorem changed_ite_eq_filter (events : ∀ issuance ∈ issuances, issuance.events ≠ [])
    (keep : Instant → Bool) :
    changed (fun issuance => if keep issuance.basis then issuance.events else []) issuances
      = issuances.filter fun issuance => keep issuance.basis := by
  induction issuances with
  | nil => rfl
  | cons issuance rest ih =>
    obtain ⟨here, later⟩ := List.forall_mem_cons.mp events
    rw [changed_cons, ih later, List.filter_cons]
    cases keep issuance.basis <;> simp [here]

/-- There is one issuance of a basis time at most. -/
theorem filter_basis_eq (distinct : (issuances.map basis).Nodup) (known : Instant) :
    issuances.filter (fun issuance => issuance.basis == known)
      = (issuedAt? issuances known).toList := by
  induction issuances with
  | nil => rfl
  | cons issuance rest ih =>
    obtain ⟨absent, later⟩ := List.nodup_cons.mp distinct
    rw [List.filter_cons, ih later]
    by_cases same : issuance.basis = known
    · rw [← same, issuedAt?_eq_none_iff.mpr absent]
      simp [issuedAt?]
    · simp [same, issuedAt?]

end Issuance

namespace TimeSeries

variable {α : Type} [Sample α] {series : TimeSeries α}

omit [Sample α] in
theorem Shares.trans {item other : TimeSeries α} (first : item.Shares other)
    (second : other.Shares series) : item.Shares series :=
  ⟨first.metadata.trans second.metadata, first.baselineMetadata.trans second.baselineMetadata,
    first.climatology.trans second.climatology⟩

omit [Sample α] in
theorem Shares.symm {item : TimeSeries α} (shares : item.Shares series) : series.Shares item :=
  ⟨shares.metadata.symm, shares.baselineMetadata.symm, shares.climatology.symm⟩

/-- Sound series with the same issuances have a baseline or not alike. -/
theorem Sound.content_eq {left right : TimeSeries α} (leftSound : left.Sound)
    (rightSound : right.Sound) (shares : left.Shares right)
    (issuances : left.issuances = right.issuances)
    (baselineIssuances : left.baselineIssuances = right.baselineIssuances) :
    left.content = right.content := by
  have held {series : TimeSeries α} (sound : series.Sound) :
      series.baseline.map Storage.issuances
        = if series.baselineIssuances = [] then none else some series.baselineIssuances := by
    rw [TimeSeries.baselineIssuances]
    cases has : series.baseline with
    | none => rfl
    | some storage => exact (if_neg (sound.baseline storage has).nonempty).symm
  rw [content, content, held leftSound, held rightSound, baselineIssuances, shares.metadata,
    shares.baselineMetadata, shares.climatology]
  exact congrArg (SeriesContent.mk · _ _ _ _) issuances

/-- A filter of basis times keeps issuances of the series and of the baseline as a whole. -/
theorem Sound.of_filterByBasis? (sound : series.Sound) {keep : Instant → Bool}
    {kept : TimeSeries α} (isKept : series.filterByBasis? keep = some kept) :
    kept.Sound ∧ kept.Shares series
      ∧ kept.issuances = series.issuances.filter (fun issuance => keep issuance.basis)
      ∧ kept.baselineIssuances
        = series.baselineIssuances.filter fun issuance => keep issuance.basis := by
  have nonempty : ∀ issuance ∈ series.everyIssuance, issuance.events ≠ [] :=
    fun issuance member => (sound.of_mem_everyIssuance member).nonempty
  rw [everyIssuance, List.forall_mem_append] at nonempty
  have isChanged : series.IsChanged _ kept := .of_rebuild? isKept
  refine ⟨sound.filterByBasis? isKept, isChanged.shares, ?_, ?_⟩
  · rw [isChanged.issuances, Issuance.changed_ite_eq_filter nonempty.1]
  · rw [isChanged.baselineIssuances, Issuance.changed_ite_eq_filter nonempty.2]

/-- A filter by one basis time leaves the item of its issuance. -/
theorem Sound.exists_filterByBasis?_of_isIssue (sound : series.Sound) {issuance : Issuance α}
    (member : issuance ∈ series.issuances) {item : TimeSeries α}
    (isIssue : series.IsIssue issuance item) (itemSound : item.Sound) :
    ∃ kept, series.filterByBasis? (fun basis => basis == issuance.basis) = some kept
      ∧ item.Alike kept := by
  obtain ⟨kept, isKept⟩ : ∃ kept,
      series.filterByBasis? (fun basis => basis == issuance.basis) = some kept := by
    refine Option.isSome_iff_exists.mp (isSome_rebuild? member ?_)
    simpa using (sound.main.every issuance member).nonempty
  obtain ⟨keptSound, shares, issuances, baselineIssuances⟩ := sound.of_filterByBasis? isKept
  refine ⟨kept, isKept, .of_content (itemSound.content_eq keptSound ?_ ?_ ?_)⟩
  · exact isIssue.shares.trans shares.symm
  · rw [isIssue.issuances, issuances, Issuance.filter_basis_eq sound.nodup_main,
      Issuance.issuedAt?_of_mem sound.nodup_main member]
    rfl
  · rw [isIssue.baselineIssuances, baselineIssuances,
      Issuance.filter_basis_eq sound.nodup_baseline]

end TimeSeries

/-! ## By lead -/

/-- Where leads ascend, the event at a lead is the only one that a filter by the lead leaves. -/
theorem Issuance.toList_eventAt? {α : Type} {issuance : Issuance α}
    (ascend : issuance.LeadsAscend) (lead : Duration) :
    (issuance.eventAt? lead).toList
      = issuance.events.filter fun event => issuance.leadOf event == lead := by
  have ascends : StrictlyAscending [lead] := List.pairwise_singleton _ lead
  have found := filterMap_eventAt? ascend ascends
  rw [List.filterMap_eq_flatMap_toList, List.flatMap_singleton] at found
  rw [found]
  exact List.filter_congr fun event _ => by simp [beq_eq_decide]

namespace TimeSeries

variable {α : Type} {series : TimeSeries α}

theorem LeadsAscend.atLead?_eq (ascend : series.LeadsAscend) (lead : Duration) :
    series.atLead? lead = series.filterByLead? fun other => other == lead :=
  rebuild?_congr fun issuance member => Issuance.toList_eventAt? (ascend issuance member) lead

/-- Where leads ascend, something is found at every one of them. -/
theorem LeadsAscend.occur (ascend : series.LeadsAscend) :
    ∀ lead ∈ series.leads, (series.atLead? lead).isSome :=
  fun _ isLead => isSome_atLead? (fun _ inMain => ascend.main inMain) isLead

/-- Leads ascend in every issuance of a series if the events at each lead are those that a filter by
the lead leaves, since every event is found then. -/
theorem Sound.leadsAscend_of_atLead?_eq [Sample α] (sound : series.Sound)
    (filters : ∀ lead ∈ series.leads, ∃ item, series.atLead? lead = some item
      ∧ series.filterByLead? (fun other => other == lead) = some item)
    {issuance : Issuance α} (member : issuance ∈ series.issuances) : issuance.LeadsAscend := by
  rw [← Issuance.eventAt?_leadOf_iff (sound.main.every issuance member).ascending]
  intro event inEvents
  have isLead : issuance.leadOf event ∈ series.leads :=
    mem_leads.mpr ⟨issuance, member, List.mem_map_of_mem inEvents⟩
  obtain ⟨item, found, kept⟩ := filters _ isLead
  have same := (issuances_of_rebuild? found).symm.trans (issuances_of_rebuild? kept)
  have events := congrArg (Issuance.gatheredEvents · issuance.basis) same
  simp only [Issuance.gatheredEvents_changed sound.nodup_main member] at events
  have isFound : event ∈ (issuance.eventAt? (issuance.leadOf event)).toList := by
    rw [events, List.mem_filter]
    exact ⟨inEvents, beq_self_eq_true _⟩
  exact Option.mem_toList.mp isFound

end TimeSeries

namespace RegularSeries

variable {α : Type} [Sample α] {regular : RegularSeries α}

/-- A filter by one lead leaves a regular series with this lead as its step. -/
theorem Steady.filterByLead_of_atLead? (steady : regular.Steady) {item : RegularSeries α}
    (isLead : item.step ∈ regular.series.leads)
    (found : regular.series.atLead? item.step = some item.series) :
    regular.filterByLead (fun lead => lead == item.step) = .ok (some item) := by
  have retained : regular.series.leads.filter (fun lead => lead == item.step)
      = item.step.multiples 1 := by
    rw [Duration.multiples_one]
    refine StrictlyAscending.eq_of_mem_iff (regular.series.leads_ascend.filter _)
      (List.pairwise_singleton _ _) fun lead => ?_
    rw [List.mem_filter, List.mem_singleton, beq_iff_eq]
    exact and_iff_right_of_imp fun same => same ▸ isLead
  obtain ⟨series, seriesKept, kept⟩ := steady.exists_filterByLead (Nat.le_refl 1) retained
  rw [← steady.leadsAscend.atLead?_eq, found] at seriesKept
  obtain rfl := Option.some.inj seriesKept
  exact kept

/-- What a filter of basis times leaves of the series, it leaves of the regular series. -/
theorem Steady.exists_filterByBasis? (steady : regular.Steady) {keep : Instant → Bool}
    {series : TimeSeries α} (isKept : regular.series.filterByBasis? keep = some series) :
    ∃ kept, regular.filterByBasis? keep = some kept ∧ kept.step = regular.step
      ∧ kept.series.Alike series := by
  have related := steady.filterByBasis?_rel keep
  rw [isKept] at related
  generalize regular.filterByBasis? keep = result at related
  obtain ⟨step, alike⟩ := related
  exact ⟨_, rfl, step, alike⟩

end RegularSeries

/-! ## Walks -/

open Cursor (Gives)

section

variable {α : Type} [Sample α]

/-- What is ahead by issue is what the filters by the basis times leave in turn. -/
theorem TimeSeries.Sound.forall₂_filterByBasis? {series : TimeSeries α} (sound : series.Sound) :
    List.Forall₂ (fun issuance item => ∃ kept,
        series.filterByBasis? (fun basis => basis == issuance.basis) = some kept
          ∧ item.Alike kept)
      series.issuances series.byBasis.ahead := by
  have issued : List.Forall₂ (fun issuance item => series.IsIssue issuance item ∧ item.Sound)
      series.issuances series.byBasis.ahead := by
    rw [TimeSeries.issuances, Storage.issuances, List.forall₂_map_left_iff]
    refine series.forall₂_ahead_byBasis.imp fun span item isNarrowed =>
      ⟨isNarrowed.isIssue, ?_⟩
    obtain ⟨index, found, rfl⟩ := isNarrowed
    exact sound.narrow (List.getElem?_eq_some_iff.mp found).1 span.basis
  refine ((List.forall₂_and_left _ _).mpr ⟨fun _ => id, issued⟩).imp ?_
  rintro issuance item ⟨member, isIssue, itemSound⟩
  exact sound.exists_filterByBasis?_of_isIssue member isIssue itemSound

/-- What is ahead by lead is what the filters by the leads leave in turn. -/
theorem RegularSeries.Steady.forall₂_filterByLead {regular : RegularSeries α}
    (steady : regular.Steady) :
    List.Forall₂ (fun lead item =>
        regular.filterByLead (fun other => other == lead) = .ok (some item))
      regular.series.leads regular.byLead.ahead := by
  have found := RegularLeadCursor.forall₂_ahead regular.byLead steady.leadsAscend.occur
  refine ((List.forall₂_and_left _ _).mpr ⟨fun _ => id, found⟩).imp ?_
  rintro lead item ⟨isLead, atLead, rfl⟩
  exact steady.filterByLead_of_atLead? isLead atLead

end

/-- The view by lead gives what the filters by the leads leave in turn. -/
def TimeSeries.ByLeadFilters {α : Type} (series : TimeSeries α) : Prop :=
  ∃ items, Gives series.byLead items ∧ items.length = series.leads.length
    ∧ List.Forall₂ (fun lead item =>
        series.filterByLead? (fun other => other == lead) = some item)
      series.leads items

namespace TimeSeries

variable {α : Type} {series : TimeSeries α}

theorem LeadsAscend.byLeadFilters (ascend : series.LeadsAscend) : series.ByLeadFilters := by
  have found := RegularLeadCursor.forall₂_ahead ⟨series.byLead⟩ ascend.occur
  refine ⟨_, LeadCursor.gives ⟨series.byLead⟩ ascend.occur, ?_,
    List.forall₂_map_right_iff.mpr (found.imp fun lead item atLead => ?_)⟩
  · rw [List.length_map, ← found.length_eq]
    rfl
  · rw [← ascend.atLead?_eq]
    exact atLead.1

/-- The view filters only where the leads of the issuances ascend. -/
theorem Sound.leadsAscend_of_byLeadFilters [Sample α] (sound : series.Sound)
    (filters : series.ByLeadFilters) {issuance : Issuance α}
    (member : issuance ∈ series.issuances) : issuance.LeadsAscend := by
  obtain ⟨items, gives, lengths, filtered⟩ := filters
  have found := series.forall₂_items_byLead
  rw [gives.items_eq] at found
  -- As many items as leads are found, so that none is missed.
  have whole : series.foundLeads = series.leads :=
    (List.takeWhile_sublist _).eq_of_length (found.length_eq.trans lengths)
  rw [whole] at found
  have both : List.Forall₂ (fun lead item => series.atLead? lead = some item
      ∧ series.filterByLead? (fun other => other == lead) = some item) series.leads items :=
    List.forall₂_iff_zip.mpr ⟨found.length_eq, fun inZip =>
      ⟨List.forall₂_zip found inZip, List.forall₂_zip filtered inZip⟩⟩
  refine sound.leadsAscend_of_atLead?_eq (fun lead isLead => ?_) member
  obtain ⟨item, -, same⟩ := exists_of_mem_left both isLead
  exact ⟨item, same⟩

end TimeSeries

/-- Two events of one issuance, one of another, and a baseline for the other. -/
def staggered : List (Contribution Binary64) :=
  let issuance (basis : Int) (leads : List Int) : Issuance Binary64 :=
    .zeros basis (leads.map (basis + ·))
  [.events (issuance 0 [5, 10]), .events (issuance 20 [5]), .baseline (issuance 20 [5])]

end Forecast
