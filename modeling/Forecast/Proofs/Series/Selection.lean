import Forecast.Proofs.Series.Transposition

/-!
# Selecting members and taking traces

Members that are selected are numbered anew, in every issuance on its own.  A member that is kept
has as many others before it in every issuance that has it, and the issuances that do not have it
have none at its new number either.  So taking apart what is selected gives the traces of the
selected members, each with the baseline that it had.
-/

namespace Forecast

/-! ## Ensembles and issuances -/

namespace EnsemblePair

variable {pair result : EnsemblePair} {keep : Nat → Bool}

theorem rank_pos_iff {width : Nat} :
    0 < rank keep width ↔ ∃ member < width, keep member = true := by
  rw [rank, List.countP_pos_iff]
  simp only [List.mem_range]

/-- The numbers of the members that are kept count up. -/
theorem map_rank_filter_range (keep : Nat → Bool) (width : Nat) :
    ((List.range width).filter keep).map (rank keep) = List.range (rank keep width) := by
  induction width with
  | zero => rfl
  | succ width ih =>
    rw [List.range_succ, List.filter_append, List.map_append, ih, rank_succ]
    cases isKept : keep width with
    | false => simp [isKept]
    | true => simp [isKept, List.range_succ]

/-- There is an ensemble left just if some member is kept. -/
theorem isSome_select?_iff :
    (pair.select? keep).isSome ↔ ∃ member < pair.width, keep member = true := by
  rw [← rank_pos_iff, width, ← length_keepIndices, List.length_pos_iff, Option.isSome_iff_exists]
  simp only [select?_eq_some_iff, exists_and_left, exists_eq, and_true]

/-- The trace of a member is found at its new number. -/
theorem trace?_of_select? (selected : pair.select? keep = some result) {member : Nat}
    (isKept : keep member = true) : result.trace? (rank keep member) = pair.trace? member := by
  obtain ⟨-, rfl⟩ := select?_eq_some_iff.mp selected
  rw [trace?, trace?, getElem?_keepIndices isKept]

end EnsemblePair

open EnsemblePair (rank)

namespace Issuance

variable {keep : Nat → Bool} {issuance result : Issuance EnsemblePair}

theorem isSome_selectMembers?_iff :
    (issuance.selectMembers? keep).isSome ↔
      ∀ event ∈ issuance.events, (event.value.select? keep).isSome := by
  simp [selectMembers?, Option.isSome_bind, isSome_mapM_iff]

/-- There is an issuance left just if some of its members is kept. -/
theorem Sound.isSome_selectMembers?_iff (sound : issuance.Sound) :
    (issuance.selectMembers? keep).isSome ↔ ∃ member < issuance.width, keep member = true := by
  rw [Issuance.isSome_selectMembers?_iff]
  simp only [EnsemblePair.isSome_select?_iff]
  constructor
  · intro every
    obtain ⟨event, inEvents⟩ := List.exists_mem_of_ne_nil _ sound.nonempty
    rw [← sound.width_eq inEvents]
    exact every event inEvents
  · intro kept event inEvents
    rwa [sound.width_eq inEvents]

theorem width_of_selectMembers? (selected : issuance.selectMembers? keep = some result) :
    result.width = rank keep issuance.width := by
  obtain ⟨basis, events⟩ := issuance
  obtain ⟨resultBasis, resultEvents⟩ := result
  obtain ⟨-, related⟩ := selectMembers?_eq_some_iff.mp selected
  cases related with
  | nil => rfl
  | cons here _ => exact EnsemblePair.width_of_select? here.2

theorem trace_of_selectMembers? (selected : issuance.selectMembers? keep = some result)
    {member : Nat} (isKept : keep member = true) :
    result.trace (rank keep member) = issuance.trace member := by
  obtain ⟨-, related⟩ := selectMembers?_eq_some_iff.mp selected
  rw [trace, trace, List.filterMap_eq_flatMap_toList, List.filterMap_eq_flatMap_toList]
  refine flatMap_eq_flatMap_of_forall₂ related fun old new changed => ?_
  obtain ⟨time, selected⟩ := changed
  rw [time, EnsemblePair.trace?_of_select? selected isKept]

variable {issuances results : List (Issuance EnsemblePair)}

/-- Members of selected issuances are the kept members under their new numbers. -/
theorem everyMember_of_selected
    (related : List.Forall₂ (fun old new => old.selectMembers? keep = some new) issuances results)
    {ι : Type} {left right : Issuance EnsemblePair → Nat → ι}
    (same : ∀ old new member, old.selectMembers? keep = some new → keep member = true →
      right new (rank keep member) = left old member) :
    (everyMember results).map (fun (issuance, member) => right issuance member)
      = ((everyMember issuances).filter fun (_, member) => keep member).map
        fun (issuance, member) => left issuance member := by
  rw [everyMember, everyMember, List.filter_flatMap, List.map_flatMap, List.map_flatMap]
  refine flatMap_eq_flatMap_of_forall₂ related fun old new selected => ?_
  rw [width_of_selectMembers? selected, ← EnsemblePair.map_rank_filter_range, List.filter_map,
    List.map_map, List.map_map, List.map_map]
  refine List.map_congr_left fun member member_kept => ?_
  exact same old new member selected (List.mem_filter.mp member_kept).2

/-- The issuance of a basis time is selected from the one of that time. -/
theorem issuedAt?_of_selected
    (related : List.Forall₂ (fun old new => old.selectMembers? keep = some new) issuances results)
    (known : Instant) :
    Option.Rel (fun old new => old.selectMembers? keep = some new) (issuedAt? issuances known)
      (issuedAt? results known) := by
  induction related with
  | nil => exact .none
  | @cons old new _ _ here _ ih =>
    have basis : new.basis = old.basis := (selectMembers?_eq_some_iff.mp here).1
    rw [issuedAt?, issuedAt?, List.find?_cons, List.find?_cons, basis]
    cases old.basis == known with
    | true => exact .some here
    | false => exact ih

end Issuance

/-! ## Series -/

theorem Storage.isSome_selectMembers?_iff {storage : Storage EnsemblePair} {keep : Nat → Bool} :
    (storage.selectMembers? keep).isSome ↔
      ∀ issuance ∈ storage.issuances, (issuance.selectMembers? keep).isSome := by
  simp [selectMembers?, Option.isSome_bind, isSome_mapM_iff]

namespace TimeSeries

variable {series : TimeSeries EnsemblePair} {keep : Nat → Bool}

theorem isSome_filterByMember?_iff :
    (series.filterByMember? keep).isSome ↔
      ∀ issuance ∈ series.everyIssuance, (issuance.selectMembers? keep).isSome := by
  rw [everyIssuance, List.forall_mem_append, issuances, ← Storage.isSome_selectMembers?_iff,
    baselineIssuances, filterByMember?]
  cases series.main.selectMembers? keep with
  | none => simp
  | some main =>
    cases series.baseline with
    | none => simp
    | some baseline =>
      simp [Option.isSome_bind, Storage.isSome_selectMembers?_iff]

/-- There is no series left just if an issuance, of the series or of the baseline, has none of the
members that are kept. -/
theorem Sound.filterByMember?_eq_none_iff (sound : series.Sound) :
    series.filterByMember? keep = none ↔
      ∃ issuance ∈ series.everyIssuance, ∀ member < issuance.width, keep member = false := by
  rw [← Option.not_isSome_iff_eq_none, isSome_filterByMember?_iff]
  simp only [not_forall, exists_prop]
  refine exists_congr fun issuance => and_congr_right fun member => ?_
  rw [(sound.of_mem_everyIssuance member).isSome_selectMembers?_iff]
  simp only [not_exists, not_and, Bool.not_eq_true]

end TimeSeries

/-- Issuances at the same time with the same observations, whatever their members. -/
structure Issuance.SameObservations (old new : Issuance EnsemblePair) : Prop where
  basis : new.basis = old.basis
  events : List.Forall₂ (fun old new => new.time = old.time ∧ new.value.left = old.value.left)
    old.events new.events

theorem Issuance.sameObservations_of_selectMembers? {keep : Nat → Bool}
    {issuance result : Issuance EnsemblePair}
    (selected : issuance.selectMembers? keep = some result) :
    issuance.SameObservations result := by
  obtain ⟨basis, related⟩ := selectMembers?_eq_some_iff.mp selected
  refine ⟨basis, related.imp fun old new ⟨time, kept⟩ => ⟨time, ?_⟩⟩
  rw [(EnsemblePair.select?_eq_some_iff.mp kept).2]

namespace RegularSeries

variable {regular result : RegularSeries EnsemblePair} {keep : Nat → Bool}

/-- Regular series that differ in the members of their ensembles alone. -/
structure SameObservations (regular result : RegularSeries EnsemblePair) : Prop where
  step : result.step = regular.step
  metadata : result.series.metadata = regular.series.metadata
  baselineMetadata : result.series.baselineMetadata = regular.series.baselineMetadata
  climatology : result.series.climatology = regular.series.climatology
  hasBaseline : result.series.hasBaseline = regular.series.hasBaseline
  main : List.Forall₂ Issuance.SameObservations regular.series.issuances result.series.issuances
  baseline : List.Forall₂ Issuance.SameObservations regular.series.baselineIssuances
    result.series.baselineIssuances

/-- Selecting members selects them in every issuance, and changes nothing else. -/
theorem exists_of_filterByMember? (selected : regular.filterByMember? keep = some result) :
    ∃ main baseline, result = ⟨regular.series.withStorage main baseline, regular.step⟩
      ∧ baseline.isSome = regular.series.baseline.isSome
      ∧ List.Forall₂ (fun old new => old.selectMembers? keep = some new) regular.series.issuances
        result.series.issuances
      ∧ List.Forall₂ (fun old new => old.selectMembers? keep = some new)
        regular.series.baselineIssuances result.series.baselineIssuances := by
  obtain ⟨series, seriesSelected, rfl⟩ := Option.map_eq_some_iff.mp selected
  obtain ⟨main, baseline, mainSelected, baselineSelected, rfl⟩ :=
    TimeSeries.filterByMember?_eq_some_iff.mp seriesSelected
  have selectedIn {before after : Storage EnsemblePair}
      (selected : before.selectMembers? keep = some after) :
      List.Forall₂ (fun old new => old.selectMembers? keep = some new) before.issuances
        after.issuances := by
    obtain ⟨issuances, related, rfl⟩ := Storage.selectMembers?_eq_some_iff.mp selected
    rwa [Storage.issuances_ofIssuances]
  refine ⟨main, baseline, rfl, ?_, selectedIn mainSelected, ?_⟩
  · generalize regular.series.baseline = before at baselineSelected
    cases baselineSelected <;> rfl
  · simp only [TimeSeries.baselineIssuances, TimeSeries.withStorage]
    generalize regular.series.baseline = before at baselineSelected
    cases baselineSelected with
    | none => exact .nil
    | some kept => exact selectedIn kept

theorem sameObservations_of_filterByMember?
    (selected : regular.filterByMember? keep = some result) :
    regular.SameObservations result := by
  obtain ⟨main, baseline, rfl, present, mainSelected, baselineSelected⟩ :=
    exists_of_filterByMember? selected
  exact ⟨rfl, rfl, rfl, rfl, present,
    mainSelected.imp fun _ _ => Issuance.sameObservations_of_selectMembers?,
    baselineSelected.imp fun _ _ => Issuance.sameObservations_of_selectMembers?⟩

/-- The trace of a kept member is the one that it had before, with the baseline that it had. -/
theorem trace_of_filterByMember? (selected : regular.filterByMember? keep = some result)
    {old new : Issuance EnsemblePair} (ofOld : old.selectMembers? keep = some new) {member : Nat}
    (isKept : keep member = true) :
    result.trace new (rank keep member) = regular.trace old member := by
  have basis : new.basis = old.basis := (Issuance.selectMembers?_eq_some_iff.mp ofOld).1
  have main : new.trace (rank keep member) = old.trace member :=
    Issuance.trace_of_selectMembers? ofOld isKept
  obtain ⟨mainStorage, baselineStorage, isResult, -, -, baselineSelected⟩ :=
    exists_of_filterByMember? selected
  have baseline : (result.trace new (rank keep member)).series.baseline
      = (regular.trace old member).series.baseline := by
    have issued := Issuance.issuedAt?_of_selected baselineSelected old.basis
    rw [baseline_trace, baseline_trace, basis]
    generalize Issuance.issuedAt? regular.series.baselineIssuances old.basis = before at issued ⊢
    generalize Issuance.issuedAt? result.series.baselineIssuances old.basis = after at issued ⊢
    cases issued with
    | none => rfl
    | some issued =>
      rw [Option.bind_some, Option.bind_some, Issuance.trace_of_selectMembers? issued isKept]
  calc
    _ = RegularSeries.mk (result.series.withStorage
          (Storage.ofIssuances [⟨new.basis, new.trace (rank keep member)⟩])
          (result.trace new (rank keep member)).series.baseline) result.step := rfl
    _ = RegularSeries.mk (regular.series.withStorage
          (Storage.ofIssuances [⟨old.basis, old.trace member⟩])
          (regular.trace old member).series.baseline) regular.step := by
      rw [baseline, basis, main, isResult]
      rfl
    _ = _ := rfl

/-- The walk by trace through selected members gives the traces of these members. -/
theorem gives_byTrace_of_filterByMember? (selected : regular.filterByMember? keep = some result) :
    Cursor.Gives result.byTrace
      (((Issuance.everyMember regular.series.issuances).filter fun (_, member) => keep member).map
        fun (issuance, member) => regular.trace issuance member) := by
  obtain ⟨-, -, -, -, mainSelected, -⟩ := exists_of_filterByMember? selected
  rw [← Issuance.everyMember_of_selected mainSelected fun old new member ofOld isKept =>
    trace_of_filterByMember? selected ofOld isKept]
  exact result.gives_byTrace

/-- Selecting members of a reachable series and taking traces can be done in either order.  Nothing
is left just if an issuance, of the series or of its baseline, has none of the members that are
kept. -/
theorem Reachable.selection_then_traces (reachable : regular.Reachable) (keep : Nat → Bool) :
    (regular.filterByMember? keep = none ↔
      ∃ issuance ∈ regular.series.everyIssuance, ∀ member < issuance.width, keep member = false)
    ∧ Cursor.Gives regular.byTrace
      ((Issuance.everyMember regular.series.issuances).map fun (issuance, member) =>
        regular.trace issuance member)
    ∧ ∀ result, regular.filterByMember? keep = some result →
      regular.SameObservations result
        ∧ Cursor.Gives result.byTrace
          (((Issuance.everyMember regular.series.issuances).filter fun (_, member) =>
            keep member).map fun (issuance, member) => regular.trace issuance member) := by
  have steady : regular.Steady := reachable.steady
  refine ⟨?_, regular.gives_byTrace, fun result selected =>
    ⟨sameObservations_of_filterByMember? selected, gives_byTrace_of_filterByMember? selected⟩⟩
  rw [← steady.sound.filterByMember?_eq_none_iff, RegularSeries.filterByMember?,
    Option.map_eq_none_iff]

/-- Without the second member the baseline is narrower than before, and the third member, now the
second, has none as it had none.  Without the first member the narrowest issuance has none left. -/
theorem Reachable.selection_then_traces_uneven :
    ∃ regular result items, unevenWidths.build = .ok regular
      ∧ regular.filterByMember? (fun member => member != 1) = some result
      ∧ regular.SameObservations result
      ∧ Cursor.Gives result.byTrace items
      ∧ items.map (fun item => item.series.basisTimes) = [20, 20, 0].map ([.ofNanoseconds ·])
      ∧ items.map (fun item => item.series.baseline.isSome) = [true, false, false]
      ∧ regular.filterByMember? (fun member => member != 0) = none := by
  have filled : unevenWidths.Reachable := .add (.add (.add (.withStep .empty _) _) _) _
  have reachable : RegularSeries.Reachable _ := .build filled (rfl : unevenWidths.build = .ok _)
  obtain ⟨-, -, selected⟩ := reachable.selection_then_traces fun member => member != 1
  obtain ⟨same, gives⟩ := selected _ rfl
  have nothing := (reachable.selection_then_traces fun member => member != 0).1
  exact ⟨_, _, _, rfl, rfl, same, gives, rfl, rfl, nothing.mpr (by decide)⟩

end RegularSeries

end Forecast
