import Forecast.Series.Cursor

/-!
# Items of walks

What holds of the next item at every place of a walk holds of all items taken.  Walks by issue give
the narrowed series, walks by lead the events at a lead that occurs, and walks by trace the traces
of the members that an issuance has.
-/

namespace Forecast

namespace Cursor

variable {σ ι : Type} [Cursor σ ι] {within : σ → Prop} {good : ι → Prop}

theorem good_of_mem_takeSteps
    (advance : ∀ place, within place →
      within (next place).2 ∧ ∀ item ∈ (next place).1, good item)
    {limit : Nat} {place : σ} (start : within place) {taken : ι × σ}
    (member : taken ∈ takeSteps limit place) : good taken.1 := by
  induction limit generalizing place with
  | zero => cases member
  | succ limit ih =>
    have ⟨stays, isGood⟩ := advance place start
    rw [takeSteps] at member
    rcases step : next place with ⟨item, behind⟩
    rw [step] at member stays isGood
    cases item with
    | none => cases member
    | some item =>
      rcases List.mem_cons.mp member with rfl | later
      · exact isGood item rfl
      · exact ih stays later

/-- A walk gives good items only, if it stays within places whose next item is good. -/
theorem good_of_item? (within : σ → Prop) (good : ι → Prop)
    (advance : ∀ place, within place →
      within (next place).2 ∧ ∀ item ∈ (next place).1, good item)
    {place : σ} (start : within place) {index : Nat} {item : ι}
    (taken : item? place index = some item) : good item := by
  obtain ⟨step, found, rfl⟩ := Option.map_eq_some_iff.mp taken
  exact good_of_mem_takeSteps advance start (List.mem_of_getElem? found)

end Cursor

/-! ## By issue -/

section

variable {α : Type} {series : TimeSeries α}

private theorem BasisCursor.next_of_same {place : BasisCursor α} (same : place.series = series) :
    place.next.2.series = series ∧ ∀ item ∈ place.next.1, ∃ index span,
      series.main.visible[index]? = some span ∧ item = series.narrow index span.basis := by
  rw [BasisCursor.next]
  cases found : place.series.main.visible[place.position]? with
  | none => exact ⟨same, by simp⟩
  | some span =>
    refine ⟨same, ?_⟩
    rintro item ⟨⟩
    rw [same] at found ⊢
    exact ⟨place.position, span, found, rfl⟩

theorem TimeSeries.exists_of_byBasis_item? {index : Nat} {item : TimeSeries α}
    (taken : Cursor.item? series.byBasis index = some item) :
    ∃ index span, series.main.visible[index]? = some span
      ∧ item = series.narrow index span.basis :=
  Cursor.good_of_item? (fun place : BasisCursor α => place.series = series) _
    (fun _ => BasisCursor.next_of_same) rfl taken

theorem RegularSeries.exists_of_byBasis_item? {regular : RegularSeries α} {index : Nat}
    {item : RegularSeries α} (taken : Cursor.item? regular.byBasis index = some item) :
    ∃ index span, regular.series.main.visible[index]? = some span
      ∧ item = ⟨regular.series.narrow index span.basis, regular.step⟩ := by
  refine Cursor.good_of_item?
    (fun place : RegularBasisCursor α =>
      place.inner.series = regular.series ∧ place.step = regular.step)
    (fun item => ∃ index span, regular.series.main.visible[index]? = some span
      ∧ item = ⟨regular.series.narrow index span.basis, regular.step⟩)
    ?_ ⟨rfl, rfl⟩ taken
  rintro place ⟨same, step⟩
  obtain ⟨stays, isNarrowed⟩ := BasisCursor.next_of_same same
  refine ⟨⟨stays, step⟩, fun item isNext => ?_⟩
  obtain ⟨narrowed, isNarrow, rfl⟩ := Option.map_eq_some_iff.mp isNext
  obtain ⟨index, span, found, rfl⟩ := isNarrowed narrowed isNarrow
  exact ⟨index, span, found, by rw [step]⟩

/-! ## By lead -/

private theorem LeadCursor.nextLead_of_same {place : LeadCursor α}
    (same : place.series = series ∧ place.leads ⊆ series.leads) :
    (place.nextLead.2.series = series ∧ place.nextLead.2.leads ⊆ series.leads)
      ∧ ∀ item ∈ place.nextLead.1,
        item.1 ∈ series.leads ∧ series.atLead? item.1 = some item.2 := by
  rw [LeadCursor.nextLead]
  cases leads : place.leads with
  | nil => exact ⟨same, by simp⟩
  | cons lead rest =>
    obtain ⟨same, part⟩ := same
    rw [leads] at part
    refine ⟨⟨same, fun later member => part (List.mem_cons_of_mem _ member)⟩, ?_⟩
    intro item isNext
    obtain ⟨found, atLead, rfl⟩ := Option.map_eq_some_iff.mp isNext
    rw [same] at atLead
    exact ⟨part List.mem_cons_self, atLead⟩

theorem TimeSeries.exists_of_byLead_item? {index : Nat} {item : TimeSeries α}
    (taken : Cursor.item? series.byLead index = some item) :
    ∃ lead ∈ series.leads, series.atLead? lead = some item := by
  refine Cursor.good_of_item?
    (fun place : LeadCursor α => place.series = series ∧ place.leads ⊆ series.leads)
    (fun item => ∃ lead ∈ series.leads, series.atLead? lead = some item)
    ?_ ⟨rfl, fun _ => id⟩ taken
  intro place same
  obtain ⟨stays, isAtLead⟩ := LeadCursor.nextLead_of_same same
  refine ⟨stays, fun item isNext => ?_⟩
  obtain ⟨found, isFound, rfl⟩ := Option.map_eq_some_iff.mp isNext
  exact ⟨found.1, isAtLead found isFound⟩

theorem RegularSeries.exists_of_byLead_item? {regular : RegularSeries α} {index : Nat}
    {item : RegularSeries α} (taken : Cursor.item? regular.byLead index = some item) :
    item.step ∈ regular.series.leads
      ∧ regular.series.atLead? item.step = some item.series := by
  refine Cursor.good_of_item?
    (fun place : RegularLeadCursor α =>
      place.inner.series = regular.series ∧ place.inner.leads ⊆ regular.series.leads)
    (fun item =>
      item.step ∈ regular.series.leads ∧ regular.series.atLead? item.step = some item.series)
    ?_ ⟨rfl, fun _ => id⟩ taken
  intro place same
  obtain ⟨stays, isAtLead⟩ := LeadCursor.nextLead_of_same same
  refine ⟨stays, fun item isNext => ?_⟩
  obtain ⟨found, isFound, rfl⟩ := Option.map_eq_some_iff.mp isNext
  exact isAtLead found isFound

end

/-! ## By trace -/

namespace TraceCursor

theorem mem_of_seek {issuances : List (Issuance EnsemblePair)} {position member : Nat}
    {issuance : Issuance EnsemblePair} {rest : Nat × Nat}
    (sought : seek issuances position member = some (issuance, rest)) :
    issuance ∈ issuances ∧ rest.2 < issuance.width := by
  induction issuances generalizing position member with
  | nil => cases sought
  | cons first others ih =>
    rw [seek] at sought
    split at sought
    · rename_i below
      cases sought
      exact ⟨List.mem_cons_self, below⟩
    · obtain ⟨inOthers, below⟩ := ih sought
      exact ⟨List.mem_cons_of_mem _ inOthers, below⟩

end TraceCursor

theorem RegularSeries.exists_of_byTrace_item? {regular : RegularSeries EnsemblePair} {index : Nat}
    {item : RegularSeries SinglePair} (taken : Cursor.item? regular.byTrace index = some item) :
    ∃ issuance ∈ regular.series.issuances, ∃ member < issuance.width,
      item = regular.trace issuance member := by
  refine Cursor.good_of_item?
    (fun place : TraceCursor => place.regular = regular)
    (fun item => ∃ issuance ∈ regular.series.issuances, ∃ member < issuance.width,
      item = regular.trace issuance member)
    ?_ rfl taken
  rintro place rfl
  change place.next.2.regular = place.regular ∧ ∀ item ∈ place.next.1, _
  rw [TraceCursor.next]
  cases sought : TraceCursor.seek
      (place.regular.series.issuances.drop place.position) place.position place.member with
  | none => exact ⟨rfl, by simp⟩
  | some found =>
    obtain ⟨issuance, position, member⟩ := found
    obtain ⟨inDropped, below⟩ := TraceCursor.mem_of_seek sought
    refine ⟨rfl, ?_⟩
    rintro item ⟨⟩
    exact ⟨issuance, List.mem_of_mem_drop inDropped, member, below, rfl⟩

end Forecast
