import Forecast.Proofs.Series.Sound

/-!
# Members and traces

Selecting members and following a trace change the values of events but not their times.  Since the
ensembles of an issuance agree in width, a member that occurs in one event occurs in all of them,
so the trace of an issuance either has an event for every one of its events or none at all.
-/

namespace Forecast

namespace EnsemblePair

/-- Number of a member among those that are kept: how many are kept before it. -/
def rank (keep : Nat → Bool) (member : Nat) : Nat := (List.range member).countP keep

theorem rank_succ (keep : Nat → Bool) (member : Nat) :
    rank keep (member + 1) = rank keep member + if keep member then 1 else 0 := by
  rw [rank, rank, List.range_succ, List.countP_append, List.countP_singleton]

private theorem length_keepIndices_from {γ : Type} (keep : Nat → Bool) (start : Nat)
    (items : List γ) :
    (keepIndices keep start items).length = (List.range' start items.length).countP keep := by
  induction items generalizing start with
  | nil => rfl
  | cons first rest ih =>
    rw [keepIndices, List.length_cons, List.range'_succ, List.countP_cons, ← ih]
    cases keep start <;> simp

/-- As many items are kept as indices. -/
theorem length_keepIndices {γ : Type} (keep : Nat → Bool) (items : List γ) :
    (keepIndices keep 0 items).length = rank keep items.length := by
  rw [length_keepIndices_from, rank, List.range_eq_range']

private theorem getElem?_keepIndices_from {γ : Type} {keep : Nat → Bool} {start index : Nat}
    (isKept : keep (start + index) = true) (items : List γ) :
    (keepIndices keep start items)[(List.range' start index).countP keep]? = items[index]? := by
  induction items generalizing start index with
  | nil => rfl
  | cons first rest ih =>
    rw [keepIndices]
    cases index with
    | zero =>
      rw [Nat.add_zero] at isKept
      rw [if_pos isKept]
      rfl
    | succ index =>
      have later : keep (start + 1 + index) = true := by
        rw [← isKept]
        congr 1
        omega
      rw [List.range'_succ, List.countP_cons, List.getElem?_cons_succ, ← ih later]
      cases keep start <;> simp

/-- An item that is kept is found at its number, wherever the items end. -/
theorem getElem?_keepIndices {γ : Type} {keep : Nat → Bool} {index : Nat}
    (isKept : keep index = true) (items : List γ) :
    (keepIndices keep 0 items)[rank keep index]? = items[index]? := by
  rw [rank, List.range_eq_range']
  exact getElem?_keepIndices_from (by rwa [Nat.zero_add]) items

theorem select?_eq_some_iff {pair result : EnsemblePair} {keep : Nat → Bool} :
    pair.select? keep = some result ↔
      keepIndices keep 0 pair.members ≠ []
        ∧ result = ⟨pair.left, keepIndices keep 0 pair.members⟩ := by
  rw [select?]
  cases keepIndices keep 0 pair.members with
  | nil => simp
  | cons first rest => simp [eq_comm]

theorem width_of_select? {pair result : EnsemblePair} {keep : Nat → Bool}
    (selected : pair.select? keep = some result) : result.width = rank keep pair.width := by
  obtain ⟨-, rfl⟩ := select?_eq_some_iff.mp selected
  exact length_keepIndices keep pair.members

/-- Ensembles of one width keep equally many members. -/
theorem width_eq_of_select? {first second firstResult secondResult : EnsemblePair}
    {keep : Nat → Bool} (same : first.width = second.width)
    (firstSelected : first.select? keep = some firstResult)
    (secondSelected : second.select? keep = some secondResult) :
    firstResult.width = secondResult.width := by
  rw [width_of_select? firstSelected, width_of_select? secondSelected, same]

theorem trace?_isSome_iff {pair : EnsemblePair} {member : Nat} :
    (pair.trace? member).isSome ↔ member < pair.width := by
  simp [trace?, width]

end EnsemblePair

namespace Issuance

/-- Leads depend on the basis time and the valid times only. -/
theorem leads_eq {α : Type} (issuance : Issuance α) :
    issuance.leads = (issuance.events.map Event.time).map (Instant.lead issuance.basis) := by
  rw [List.map_map]
  rfl

theorem ascending_iff {α : Type} {events : List (Event α)} :
    Ascending events ↔ (events.map Event.time).Pairwise (· < ·) :=
  List.pairwise_map.symm

/-- All events of a sound issuance have the width of the issuance. -/
theorem Sound.width_eq {issuance : Issuance EnsemblePair} (sound : issuance.Sound)
    {event : Event EnsemblePair} (member : event ∈ issuance.events) :
    event.value.width = issuance.width := by
  obtain ⟨head, rest, split⟩ := List.exists_cons_of_ne_nil sound.nonempty
  have inHead : head ∈ issuance.events := split ▸ List.mem_cons_self
  have agree := sound.uniform (fun _ => rfl) event member head inHead
  rw [width, split]
  exact agree

theorem selectMembers?_eq_some_iff {keep : Nat → Bool} {issuance result : Issuance EnsemblePair} :
    issuance.selectMembers? keep = some result ↔
      result.basis = issuance.basis ∧
        List.Forall₂ (fun old new =>
            new.time = old.time ∧ old.value.select? keep = some new.value)
          issuance.events result.events := by
  obtain ⟨basis, events⟩ := result
  simp only [selectMembers?, Option.bind_eq_bind, Option.bind_eq_some_iff, Option.pure_def,
    Option.some.injEq, mk.injEq]
  constructor
  · rintro ⟨selected, traversed, rfl, rfl⟩
    refine ⟨rfl, (mapM_eq_some_iff.mp traversed).imp fun old new changed => ?_⟩
    obtain ⟨pair, kept, made⟩ := Option.bind_eq_some_iff.mp changed
    obtain rfl := Option.some.inj made
    exact ⟨rfl, kept⟩
  · rintro ⟨rfl, related⟩
    refine ⟨events, mapM_eq_some_iff.mpr (related.imp ?_), rfl, rfl⟩
    rintro old ⟨time, value⟩ ⟨rfl, kept⟩
    exact Option.bind_eq_some_iff.mpr ⟨value, kept, rfl⟩

/-- Selecting members keeps all valid times. -/
theorem times_of_selectMembers? {keep : Nat → Bool} {issuance result : Issuance EnsemblePair}
    (selected : issuance.selectMembers? keep = some result) :
    result.events.map Event.time = issuance.events.map Event.time :=
  have related := (selectMembers?_eq_some_iff.mp selected).2
  map_eq_map_of_forall₂ related fun _ _ changed => changed.1

theorem leads_of_selectMembers? {keep : Nat → Bool} {issuance result : Issuance EnsemblePair}
    (selected : issuance.selectMembers? keep = some result) : result.leads = issuance.leads := by
  rw [leads_eq, leads_eq, times_of_selectMembers? selected,
    (selectMembers?_eq_some_iff.mp selected).1]

theorem Sound.selectMembers? {keep : Nat → Bool} {issuance result : Issuance EnsemblePair}
    (sound : issuance.Sound) (selected : issuance.selectMembers? keep = some result) :
    result.Sound := by
  have times := times_of_selectMembers? selected
  have related := (selectMembers?_eq_some_iff.mp selected).2
  constructor
  · have lengths : result.events.length = issuance.events.length := related.length_eq.symm
    rw [← List.length_pos_iff, lengths, List.length_pos_iff]
    exact sound.nonempty
  · rw [ascending_iff, times, ← ascending_iff]
    exact sound.ascending
  · intro ensembles first inFirst second inSecond
    obtain ⟨oldFirst, inOldFirst, -, firstSelected⟩ := exists_of_mem_right related inFirst
    obtain ⟨oldSecond, inOldSecond, -, secondSelected⟩ := exists_of_mem_right related inSecond
    have same := sound.uniform ensembles oldFirst inOldFirst oldSecond inOldSecond
    exact EnsemblePair.width_eq_of_select? same firstSelected secondSelected

/-! ## Traces -/

theorem mem_trace {member : Nat} {issuance : Issuance EnsemblePair} {event : Event SinglePair} :
    event ∈ issuance.trace member ↔
      ∃ old ∈ issuance.events, event.time = old.time
        ∧ old.value.trace? member = some event.value := by
  obtain ⟨time, value⟩ := event
  simp only [trace, List.mem_filterMap, Option.map_eq_some_iff, Event.mk.injEq]
  constructor
  · rintro ⟨old, inOld, pair, traced, rfl, rfl⟩
    exact ⟨old, inOld, rfl, traced⟩
  · rintro ⟨old, inOld, rfl, traced⟩
    exact ⟨old, inOld, value, traced, rfl, rfl⟩

/-- A member below the width of an issuance has an event in the trace for every event. -/
theorem Sound.forall₂_trace {issuance : Issuance EnsemblePair} (sound : issuance.Sound)
    {member : Nat} (below : member < issuance.width) :
    List.Forall₂ (fun old new => new.time = old.time ∧ old.value.trace? member = some new.value)
      issuance.events (issuance.trace member) := by
  have every : ∀ old ∈ issuance.events, (old.value.trace? member).isSome := by
    intro old inOld
    rw [EnsemblePair.trace?_isSome_iff, sound.width_eq inOld]
    exact below
  refine (forall₂_filterMap fun old inOld => ?_).imp fun old new traced => ?_
  · rw [Option.isSome_map]
    exact every old inOld
  · obtain ⟨pair, found, rfl⟩ := Option.map_eq_some_iff.mp traced
    exact ⟨rfl, found⟩

/-- Just the members below the width of an issuance have traces. -/
theorem Sound.trace_ne_nil_iff {issuance : Issuance EnsemblePair} (sound : issuance.Sound)
    {member : Nat} : issuance.trace member ≠ [] ↔ member < issuance.width := by
  constructor
  · intro traced
    obtain ⟨event, inTrace⟩ := List.exists_mem_of_ne_nil _ traced
    obtain ⟨old, inEvents, -, found⟩ := mem_trace.mp inTrace
    rw [← sound.width_eq inEvents, ← EnsemblePair.trace?_isSome_iff, found]
    rfl
  · intro below
    have lengths := (sound.forall₂_trace below).length_eq
    rw [← List.length_pos_iff, ← lengths, List.length_pos_iff]
    exact sound.nonempty

/-- A trace keeps the valid times of a sound issuance, unless no event has the member. -/
theorem Sound.times_trace {issuance : Issuance EnsemblePair} (sound : issuance.Sound)
    {member : Nat} (traced : issuance.trace member ≠ []) :
    (issuance.trace member).map Event.time = issuance.events.map Event.time :=
  map_eq_map_of_forall₂ (sound.forall₂_trace (sound.trace_ne_nil_iff.mp traced)) fun _ _ => And.left

theorem Sound.trace {issuance : Issuance EnsemblePair} (sound : issuance.Sound) {member : Nat}
    (traced : issuance.trace member ≠ []) :
    Sound ⟨issuance.basis, issuance.trace member⟩ := by
  refine ⟨traced, ?_, ?_⟩
  · rw [ascending_iff, sound.times_trace traced, ← ascending_iff]
    exact sound.ascending
  · intro ensembles
    have none : (Sample.memberCount (default : SinglePair)).isSome := ensembles default
    exact absurd none (by simp [Sample.memberCount])

end Issuance

namespace Storage

theorem selectMembers?_eq_some_iff {keep : Nat → Bool} {storage result : Storage EnsemblePair} :
    storage.selectMembers? keep = some result ↔
      ∃ issuances, List.Forall₂ (fun old new => old.selectMembers? keep = some new)
          storage.issuances issuances ∧ result = ofIssuances issuances := by
  simp only [selectMembers?, Option.bind_eq_bind, Option.bind_eq_some_iff, Option.pure_def,
    Option.some.injEq, mapM_eq_some_iff]
  exact exists_congr fun _ => and_congr_right fun _ => eq_comm

/-- Every issuance that is left comes from one that was there. -/
theorem exists_of_selectMembers? {keep : Nat → Bool} {storage result : Storage EnsemblePair}
    (selected : storage.selectMembers? keep = some result) {issuance : Issuance EnsemblePair}
    (member : issuance ∈ result.issuances) :
    ∃ old ∈ storage.issuances, old.selectMembers? keep = some issuance := by
  obtain ⟨issuances, related, rfl⟩ := selectMembers?_eq_some_iff.mp selected
  rw [issuances_ofIssuances] at member
  exact exists_of_mem_right related member

theorem Sound.selectMembers? {keep : Nat → Bool} {storage result : Storage EnsemblePair}
    (sound : storage.Sound) (selected : storage.selectMembers? keep = some result) :
    result.Sound := by
  obtain ⟨issuances, related, made⟩ := selectMembers?_eq_some_iff.mp selected
  have lengths : issuances.length = storage.issuances.length := related.length_eq.symm
  have bases : issuances.map Issuance.basis = storage.issuances.map Issuance.basis :=
    map_eq_map_of_forall₂ related fun _ _ kept => (Issuance.selectMembers?_eq_some_iff.mp kept).1
  have nonempty : issuances ≠ [] := by
    rw [← List.length_pos_iff, lengths, List.length_pos_iff]
    exact sound.nonempty
  rw [made]
  refine Sound.ofIssuances nonempty ?_ (bases ▸ sound.distinct)
  intro issuance member
  obtain ⟨old, inOld, kept⟩ := exists_of_mem_right related member
  exact (sound.every old inOld).selectMembers? kept

end Storage

namespace TimeSeries

/-- Selecting members of a series selects them in the series and in its baseline. -/
theorem filterByMember?_eq_some_iff {series result : TimeSeries EnsemblePair}
    {keep : Nat → Bool} :
    series.filterByMember? keep = some result ↔
      ∃ main baseline, series.main.selectMembers? keep = some main
        ∧ Option.Rel (fun before after => before.selectMembers? keep = some after) series.baseline
          baseline
        ∧ result = series.withStorage main baseline := by
  simp only [filterByMember?, Option.bind_eq_bind, Option.bind_eq_some_iff, Option.pure_def]
  refine exists_congr fun main => ?_
  rw [exists_and_left]
  refine and_congr_right fun _ => ?_
  cases series.baseline with
  | none =>
    constructor
    · exact fun made => ⟨none, .none, (Option.some.inj made).symm⟩
    · rintro ⟨_, ⟨⟩, rfl⟩
      rfl
  | some before =>
    simp only [Option.bind_eq_some_iff, Option.some.injEq]
    constructor
    · rintro ⟨after, selected, rfl⟩
      exact ⟨some after, .some selected, rfl⟩
    · rintro ⟨_, ⟨selected⟩, rfl⟩
      exact ⟨_, selected, rfl⟩

theorem storages_of_filterByMember? {series result : TimeSeries EnsemblePair} {keep : Nat → Bool}
    (kept : series.filterByMember? keep = some result) :
    series.main.selectMembers? keep = some result.main
      ∧ ∀ storage, result.baseline = some storage →
        ∃ before, series.baseline = some before ∧ before.selectMembers? keep = some storage := by
  obtain ⟨main, baseline, mainKept, baselineKept, rfl⟩ := filterByMember?_eq_some_iff.mp kept
  refine ⟨mainKept, ?_⟩
  rintro storage rfl
  cases had : series.baseline with
  | none =>
    rw [had] at baselineKept
    cases baselineKept
  | some before =>
    rw [had] at baselineKept
    cases baselineKept with
    | some selected => exact ⟨before, rfl, selected⟩

theorem Sound.filterByMember? {series result : TimeSeries EnsemblePair} (sound : series.Sound)
    {keep : Nat → Bool} (kept : series.filterByMember? keep = some result) : result.Sound := by
  obtain ⟨mainKept, baselineKept⟩ := storages_of_filterByMember? kept
  refine ⟨sound.main.selectMembers? mainKept, fun storage present => ?_⟩
  obtain ⟨before, had, selected⟩ := baselineKept storage present
  exact (sound.baseline before had).selectMembers? selected

end TimeSeries

end Forecast
