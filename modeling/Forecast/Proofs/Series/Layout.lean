import Forecast.Proofs.Series.Assembly
import Forecast.Proofs.Series.Members
import Mathlib.Data.List.Chain

/-!
# Layout of storages

The visible spans of a storage lie end to end within its buffer.  Laying issuances out makes such a
storage and narrowing keeps it, also where a storage is narrowed again and again.  So every span is
read in full, and the events from the first visible span to the end of the last are the events of
the visible issuances, one issuance after the other.
-/

namespace Forecast

/-- Position behind the last event. -/
def Span.stop (span : Span) : Nat := span.start + span.length

namespace Storage

variable {α β : Type}

/-- The visible spans lie end to end within the buffer. -/
structure Contiguous (storage : Storage α) : Prop where
  /-- The visible range lies within the table. -/
  within : storage.first + storage.count ≤ storage.spans.length
  /-- Every span starts where the one before it stops. -/
  adjacent : storage.visible.IsChain fun earlier later => later.start = earlier.stop
  /-- No span stops behind the buffer. -/
  inside : ∀ span ∈ storage.visible, span.stop ≤ storage.events.length

/-! ## Laying out -/

private theorem isChain_spansFrom (start : Nat) (issuances : List (Issuance α)) :
    (spansFrom start issuances).IsChain fun earlier later => later.start = earlier.stop := by
  induction issuances generalizing start with
  | nil => exact .nil
  | cons issuance rest ih =>
    have later := ih (start + issuance.events.length)
    cases rest with
    | nil => exact .singleton _
    | cons next others => exact .cons_cons rfl later

private theorem stop_le_of_mem_spansFrom {start : Nat} {issuances : List (Issuance α)}
    {span : Span} (member : span ∈ spansFrom start issuances) :
    span.stop ≤ start + (issuances.flatMap Issuance.events).length := by
  induction issuances generalizing start with
  | nil => cases member
  | cons issuance rest ih =>
    rw [List.flatMap_cons, List.length_append]
    rcases List.mem_cons.mp member with rfl | later
    · simp only [Span.stop]
      omega
    · have reach := ih later
      omega

/-- Issuances are laid out end to end. -/
theorem contiguous_ofIssuances (issuances : List (Issuance α)) :
    (ofIssuances issuances).Contiguous := by
  refine ⟨by simp [ofIssuances], ?_, ?_⟩
  · rw [visible_ofIssuances]
    exact isChain_spansFrom 0 issuances
  · intro span member
    rw [visible_ofIssuances] at member
    have reach := stop_le_of_mem_spansFrom member
    rwa [Nat.zero_add] at reach

theorem contiguous_of_rebuild {change : Issuance α → List (Event β)} {storage : Storage α}
    {result : Storage β} (rebuilt : storage.rebuild change = some result) : result.Contiguous := by
  obtain ⟨-, rfl⟩ := rebuild_eq_some_iff.mp rebuilt
  exact contiguous_ofIssuances _

theorem contiguous_of_selectMembers? {keep : Nat → Bool} {storage result : Storage EnsemblePair}
    (selected : storage.selectMembers? keep = some result) : result.Contiguous := by
  obtain ⟨issuances, -, rfl⟩ := selectMembers?_eq_some_iff.mp selected
  exact contiguous_ofIssuances issuances

/-! ## Reading -/

namespace Contiguous

variable {storage : Storage α}

/-- A visible span stays where it is when the others are hidden. -/
theorem narrow (contiguous : storage.Contiguous) {index : Nat}
    (visible : index < storage.visible.length) : (storage.narrow index).Contiguous := by
  have within : index < storage.count := Nat.lt_of_lt_of_le visible storage.count_visible_le
  have part : (storage.narrow index).visible <:+: storage.visible := by
    rw [visible_narrow storage within]
    exact (List.take_prefix _ _).isInfix.trans (List.drop_suffix _ _).isInfix
  refine ⟨?_, contiguous.adjacent.infix part, fun span member => ?_⟩
  · have reach := contiguous.within
    simp only [Storage.narrow]
    omega
  · exact contiguous.inside span (part.subset member)

/-- A visible span is read in full. -/
theorem length_events_read (contiguous : storage.Contiguous) {span : Span}
    (member : span ∈ storage.visible) : (storage.read span).events.length = span.length := by
  have reach := contiguous.inside span member
  simp only [read, Span.stop, List.length_take, List.length_drop] at reach ⊢
  omega

private theorem start_le_stop_getLast {first : Span} {rest : List Span}
    (adjacent : (first :: rest).IsChain fun earlier later => later.start = earlier.stop) :
    first.start ≤ ((first :: rest).getLast (by simp)).stop := by
  induction rest generalizing first with
  | nil => exact Nat.le_add_right _ _
  | cons second others ih =>
    obtain ⟨meets, behind⟩ := List.isChain_cons_cons.mp adjacent
    have reach := ih behind
    rw [List.getLast_cons (List.cons_ne_nil _ _)]
    simp only [Span.stop] at meets reach ⊢
    omega

/-- The events between the ends of adjacent spans are those of the spans in order. -/
private theorem take_drop_eq_flatMap_read (storage : Storage α) {first : Span} {rest : List Span}
    (adjacent : (first :: rest).IsChain fun earlier later => later.start = earlier.stop) :
    (storage.events.drop first.start).take
        (((first :: rest).getLast (by simp)).stop - first.start)
      = ((first :: rest).map storage.read).flatMap Issuance.events := by
  induction rest generalizing first with
  | nil => simp [read, Span.stop]
  | cons second others ih =>
    obtain ⟨meets, behind⟩ := List.isChain_cons_cons.mp adjacent
    have later := ih behind
    have reach := start_le_stop_getLast behind
    rw [List.getLast_cons (List.cons_ne_nil _ _), List.map_cons, List.flatMap_cons, ← later]
    generalize ((second :: others).getLast _).stop = stop at reach ⊢
    -- The slice is cut where the first span stops, which is where the second starts.
    have split : stop - first.start = first.length + (stop - second.start) := by
      simp only [Span.stop] at meets
      omega
    rw [split, List.take_add, List.drop_drop, meets]
    rfl

/-- The slice of the visible events holds the events of the visible issuances, in order. -/
theorem visibleEvents_eq (contiguous : storage.Contiguous) :
    storage.visibleEvents = storage.issuances.flatMap Issuance.events := by
  have adjacent := contiguous.adjacent
  rw [visibleEvents, issuances]
  cases spans : storage.visible with
  | nil => rfl
  | cons first rest =>
    rw [spans] at adjacent
    rw [List.head?_cons, List.getLast?_eq_getLast_of_ne_nil (List.cons_ne_nil _ _)]
    exact take_drop_eq_flatMap_read storage adjacent

/-- The slice of the visible events lies within the buffer. -/
theorem visibleEvents_within (contiguous : storage.Contiguous) {first last : Span}
    (isFirst : storage.visible.head? = some first) (isLast : storage.visible.getLast? = some last) :
    first.start ≤ last.stop ∧ last.stop ≤ storage.events.length := by
  obtain ⟨rest, spans⟩ := List.head?_eq_some_iff.mp isFirst
  refine ⟨?_, contiguous.inside last (List.mem_of_getLast? isLast)⟩
  have adjacent := contiguous.adjacent
  rw [spans] at adjacent isLast
  rw [List.getLast?_eq_getLast_of_ne_nil (List.cons_ne_nil _ _), Option.some.injEq] at isLast
  rw [← isLast]
  exact start_le_stop_getLast adjacent

end Contiguous

end Storage

/-! ## Series -/

namespace TimeSeries

variable {α β : Type}

/-- The issuances of the series, and those of its baseline, lie end to end. -/
structure Contiguous (series : TimeSeries α) : Prop where
  main : series.main.Contiguous
  baseline : ∀ storage ∈ series.baseline, storage.Contiguous

namespace Contiguous

theorem of_assemble [Sample α] {builder : SeriesBuilder α} {series : TimeSeries α}
    (assembled : builder.assemble = .ok series) : series.Contiguous := by
  obtain ⟨-, -, -, _, -, _, -, rfl⟩ := SeriesBuilder.assemble_eq_ok_iff.mp assembled
  refine ⟨Storage.contiguous_ofIssuances _, fun storage present => ?_⟩
  simp only [SeriesBuilder.toSeries, Option.mem_def] at present
  split at present
  · cases present
  · obtain rfl := Option.some.inj present
    exact Storage.contiguous_ofIssuances _

theorem of_build [Sample α] {contributions : List (Contribution α)} {series : TimeSeries α}
    (built : TimeSeries.build contributions = .ok series) : series.Contiguous :=
  of_assemble (build_eq_ok_iff.mp built)

theorem of_rebuild? {series : TimeSeries α} {change : Issuance α → List (Event β)}
    {result : TimeSeries β} (rebuilt : series.rebuild? change = some result) :
    result.Contiguous := by
  obtain ⟨main, mainRebuilt, rfl⟩ := Option.map_eq_some_iff.mp rebuilt
  refine ⟨Storage.contiguous_of_rebuild mainRebuilt, fun storage present => ?_⟩
  obtain ⟨before, -, baselineRebuilt⟩ := Option.bind_eq_some_iff.mp present
  exact Storage.contiguous_of_rebuild baselineRebuilt

theorem of_filterByMember? {series result : TimeSeries EnsemblePair} {keep : Nat → Bool}
    (kept : series.filterByMember? keep = some result) : result.Contiguous := by
  obtain ⟨mainKept, baselineKept⟩ := storages_of_filterByMember? kept
  refine ⟨Storage.contiguous_of_selectMembers? mainKept, fun storage present => ?_⟩
  obtain ⟨before, -, selected⟩ := baselineKept storage present
  exact Storage.contiguous_of_selectMembers? selected

theorem trace (regular : RegularSeries EnsemblePair) (issuance : Issuance EnsemblePair)
    (member : Nat) : (regular.trace issuance member).series.Contiguous := by
  refine ⟨Storage.contiguous_ofIssuances _, fun storage present => ?_⟩
  simp only [RegularSeries.trace, withStorage, Option.bind_eq_bind, Option.mem_def,
    Option.bind_eq_some_iff] at present
  obtain ⟨before, -, position, -, issued, -, traced⟩ := present
  split at traced
  · cases traced
  · obtain rfl := Option.some.inj traced
    exact Storage.contiguous_ofIssuances _

variable {series : TimeSeries α}

theorem baselineSeries? (contiguous : series.Contiguous) {result : TimeSeries α}
    (isBaseline : series.baselineSeries? = some result) : result.Contiguous := by
  obtain ⟨storage, had, rfl⟩ := Option.map_eq_some_iff.mp isBaseline
  exact ⟨contiguous.baseline storage had, by simp⟩

theorem narrow (contiguous : series.Contiguous) {index : Nat}
    (visible : index < series.main.visible.length) (basis : Instant) :
    (series.narrow index basis).Contiguous := by
  refine ⟨contiguous.main.narrow visible, fun storage present => ?_⟩
  obtain ⟨before, had, narrowed⟩ := Option.bind_eq_some_iff.mp present
  obtain ⟨position, found, rfl⟩ := Option.map_eq_some_iff.mp narrowed
  exact (contiguous.baseline before had).narrow (List.findIdx?_eq_some_iff_getElem.mp found).1

theorem basisItem (contiguous : series.Contiguous) {item : TimeSeries α} {index : Nat}
    (taken : Cursor.item? series.byBasis index = some item) : item.Contiguous := by
  obtain ⟨position, span, found, rfl⟩ := exists_of_byBasis_item? taken
  obtain ⟨within, -⟩ := List.getElem?_eq_some_iff.mp found
  exact contiguous.narrow within span.basis

theorem regularBasisItem {regular item : RegularSeries α} (contiguous : regular.series.Contiguous)
    {index : Nat} (taken : Cursor.item? regular.byBasis index = some item) :
    item.series.Contiguous := by
  obtain ⟨position, span, found, rfl⟩ := RegularSeries.exists_of_byBasis_item? taken
  obtain ⟨within, -⟩ := List.getElem?_eq_some_iff.mp found
  exact contiguous.narrow within span.basis

theorem regularFilterByBasis? {regular result : RegularSeries α}
    (contiguous : regular.series.Contiguous) {keep : Instant → Bool}
    (kept : regular.filterByBasis? keep = some result) : result.series.Contiguous := by
  rw [RegularSeries.filterByBasis?] at kept
  split at kept
  · obtain rfl := Option.some.inj kept
    exact contiguous
  · obtain ⟨series, seriesKept, rfl⟩ := Option.map_eq_some_iff.mp kept
    exact of_rebuild? seriesKept

end Contiguous

end TimeSeries

end Forecast
