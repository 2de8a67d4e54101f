import Forecast.Proofs.Aggregation.Reference
import Forecast.Proofs.Output.MultiStore

/-!
# Resolution determines what its results do

Settled cells in ascending order resolve to what their results determine.  Merging the results of a
cell keeps for each metric the output that counts, so the rows of the assembled stores are the
outputs that count, and the faults of merging and assembling are the first failure and mismatch.
-/

namespace Forecast

namespace Settlement

variable {group : OutputGroup}

/-- The error that a result stands for. -/
theorem exists_error_of_not_succeeds {settlement : Settlement group} (key : CellKey)
    (fails : ¬settlement.Succeeds) : ∃ cause, settlement.outputsAt key = .error cause := by
  cases settlement with
  | outputs cell => exact absurd ⟨cell, rfl⟩ fails
  | failed failure => exact ⟨_, rfl⟩
  | interrupted interruption => exact ⟨_, rfl⟩

/-- The last result with a metric has its last entry of the metric. -/
theorem findSome?_output? (settlements : List (Settlement group)) (metric : MetricKey) :
    settlements.reverse.findSome? (fun settlement => settlement.output? metric)
      = (SortedMap.ofList (settlements.flatMap entries)).get? metric := by
  rw [SortedMap.ofList, SortedMap.get?_insertAll, SortedMap.get?_empty, Option.or_none]
  induction settlements using List.reverseRecOn with
  | nil => rfl
  | append_singleton settlements last ih =>
    rw [List.reverse_append, List.findSome?_append, ih, List.flatMap_append, List.reverse_append,
      List.find?_append]
    simp only [List.reverse_singleton, List.findSome?_singleton, output?_eq_find?,
      List.flatMap_singleton]
    cases last.entries.reverse.find? fun entry => entry.1 = metric <;> rfl

end Settlement

namespace SettledCells

variable {group : OutputGroup}

/-- The results of a cell. -/
def results (settled : SettledCells group) : ShapeResults group :=
  fun key => (settled.get? key).getD []

/-! ## Merging -/

theorem mergeInto_of_succeed {key : CellKey} {merged : CellOutputs group}
    {settlements : List (Settlement group)}
    (succeed : ∀ settlement ∈ settlements, settlement.Succeeds) :
    mergeInto key merged settlements
      = .ok (merged.insertAll (settlements.flatMap Settlement.entries)) := by
  induction settlements generalizing merged with
  | nil => rfl
  | cons settlement rest ih =>
    obtain ⟨⟨cell, rfl⟩, later⟩ := List.forall_mem_cons.mp succeed
    rw [mergeInto, Settlement.outputsAt]
    simp only [ih later]
    rw [List.flatMap_cons, SortedMap.insertAll, SortedMap.insertAll, List.foldl_append]
    rfl

theorem mergeInto_of_split {key : CellKey} {merged : CellOutputs group}
    {before after : List (Settlement group)} {settlement : Settlement group}
    (earliest : ∀ earlier ∈ before, earlier.Succeeds) {cause : AggregationError}
    (fails : settlement.outputsAt key = .error cause) :
    mergeInto key merged (before ++ settlement :: after) = .error cause := by
  induction before generalizing merged with
  | nil => rw [List.nil_append, mergeInto, fails]
  | cons first before ih =>
    obtain ⟨⟨cell, rfl⟩, later⟩ := List.forall_mem_cons.mp earliest
    rw [List.cons_append, mergeInto, Settlement.outputsAt]
    exact ih later

/-- The cells with their results merged. -/
def merged (settled : SettledCells group) : SortedMap CellKey (CellOutputs group) :=
  settled.mapValues fun settlements => SortedMap.ofList (settlements.flatMap Settlement.entries)

theorem mergeCells_of_succeed {settled : SettledCells group}
    (succeed : ∀ entry ∈ settled.entries, ∀ settlement ∈ entry.2, settlement.Succeeds) :
    mergeCells settled = .ok settled.merged := by
  rw [mergeCells, SortedMap.traverse_eq_ok_iff, SortedMap.Alongside, merged, SortedMap.mapValues,
    List.forall₂_map_right_iff, List.forall₂_same]
  exact fun entry member => ⟨rfl, mergeInto_of_succeed (succeed entry member)⟩

theorem mergeCells_of_split {settled : SettledCells group} {key : CellKey}
    {settlements : List (Settlement group)}
    {before after : List (CellKey × List (Settlement group))}
    (split : settled.entries = before ++ (key, settlements) :: after)
    (succeed : ∀ entry ∈ before, ∀ settlement ∈ entry.2, settlement.Succeeds)
    {cause : AggregationError}
    (fails : mergeInto key SortedMap.empty settlements = .error cause) :
    mergeCells settled = .error cause := by
  rw [mergeCells, SortedMap.traverse_eq_error_iff]
  exact ⟨before, (key, settlements), after, split,
    fun entry member => ⟨_, mergeInto_of_succeed (succeed entry member)⟩, fails⟩

/-! ## Outputs that count -/

section

variable {settled : SettledCells group}

theorem winner?_results (metric : MetricKey) (key : CellKey) :
    settled.results.winner? metric key
      = (settled.merged.get? key).bind fun cell => cell.get? metric := by
  rw [ShapeResults.winner?, Settlement.findSome?_output?, results, merged,
    SortedMap.get?_mapValues]
  cases settled.get? key <;> rfl

theorem results_eq {key : CellKey} {settlements : List (Settlement group)}
    (member : (key, settlements) ∈ settled.entries) : settled.results key = settlements := by
  rw [results, SortedMap.get?_eq_some_iff.mpr member]
  rfl

theorem exists_entry {key : CellKey} {settlement : Settlement group}
    (member : settlement ∈ settled.results key) :
    (key, settled.results key) ∈ settled.entries := by
  cases found : settled.get? key with
  | none => simp [results, found] at member
  | some settlements =>
    have entry := SortedMap.get?_eq_some_iff.mp found
    rwa [results_eq entry]

theorem succeed_results_iff :
    settled.results.Succeed ↔
      ∀ entry ∈ settled.entries, ∀ settlement ∈ entry.2, settlement.Succeeds := by
  constructor
  · rintro succeed ⟨key, settlements⟩ member settlement inEntry
    rw [← results_eq member] at inEntry
    exact succeed key settlement inEntry
  · intro succeed key settlement member
    exact succeed _ (exists_entry member) settlement member

/-- The row of a metric are the outputs that count. -/
theorem mem_row_iff {metric : MetricKey} {key : CellKey} {output : Output group} :
    (key, output) ∈ (MultiStoreBuilder.row settled.merged metric).entries ↔
      settled.results.winner? metric key = some output := by
  rw [winner?_results, Option.bind_eq_some_iff]
  simp only [SortedMap.get?_eq_some_iff, MultiStoreBuilder.row, SortedMap.mem_filterMap]

/-- The first output of the row of a metric is that of the least cell that has one. -/
theorem isReference_of_head? {metric : MetricKey} {first : CellKey × Output group}
    (isFirst : (MultiStoreBuilder.row settled.merged metric).entries.head? = some first) :
    settled.results.IsReference metric first.1 first.2 := by
  obtain ⟨rest, isRow⟩ := List.head?_eq_some_iff.mp isFirst
  have found : settled.results.winner? metric first.1 = some first.2 := by
    rw [← mem_row_iff, isRow]
    exact List.mem_cons_self
  have split : (MultiStoreBuilder.row settled.merged metric).entries = [] ++ first :: rest := isRow
  refine ⟨SortedMap.least _ split (by simp [found]) (by simp) ?_, found⟩
  intro other has
  obtain ⟨output, isWinner⟩ := Option.isSome_iff_exists.mp has
  exact ⟨output, mem_row_iff.mpr isWinner⟩

theorem agree_iff_rowAgrees {metric : MetricKey} :
    settled.results.Agree metric ↔ MultiStoreBuilder.RowAgrees settled.merged metric := by
  constructor
  · intro agree first isFirst entry member
    exact agree _ _ _ _ (mem_row_iff.mp member) (isReference_of_head? isFirst).found
  · intro agree firstKey secondKey firstOutput secondOutput isFirst isSecond
    have inRow := mem_row_iff.mpr isFirst
    obtain ⟨head, rest, isRow⟩ := List.exists_cons_of_ne_nil (List.ne_nil_of_mem inRow)
    have isHead : head ∈ (MultiStoreBuilder.row settled.merged metric).entries.head? := by
      rw [isRow]
      rfl
    have firstSame := agree head isHead _ inRow
    have secondSame := agree head isHead _ (mem_row_iff.mpr isSecond)
    exact OutputMetadata.minimallyEqual_of_common firstSame secondSame

/-! ## The resolution -/

/-- A failed result decides the resolution. -/
theorem determine_of_split {before after : List (CellKey × List (Settlement group))}
    {key : CellKey} {settlements : List (Settlement group)}
    (split : settled.entries = before ++ (key, settlements) :: after)
    (earlier : ∀ entry ∈ before, ∀ settlement ∈ entry.2, settlement.Succeeds)
    (fails : ¬∀ settlement ∈ settlements, settlement.Succeeds) :
    settled.results.Determine settled.resolve := by
  rcases forall_or_exists_first Settlement.Succeeds settlements with
    succeed | ⟨first, settlement, rest, isCell, earliest, failsHere⟩
  · exact absurd succeed fails
  obtain ⟨cause, stands⟩ := Settlement.exists_error_of_not_succeeds key failsHere
  have resolved : settled.resolve = .error cause := by
    have merges : mergeInto key SortedMap.empty settlements = .error cause := by
      rw [isCell]
      exact mergeInto_of_split earliest stands
    rw [resolve, mergeCells_of_split split earlier merges]
  have member : (key, settlements) ∈ settled.entries := by simp [split]
  have isResults : settled.results key = first ++ settlement :: rest := by
    rw [results_eq member, isCell]
  have least : Least settled.results.Fails key := by
    refine settled.least split ⟨settlement, by simp [isResults], failsHere⟩ ?_ ?_
    · rintro entry isEntry ⟨failing, isResult, failsThere⟩
      have inSettled : (entry.1, entry.2) ∈ settled.entries := by
        rw [split]
        exact List.mem_append_left _ isEntry
      rw [results_eq inSettled] at isResult
      exact failsThere (earlier entry isEntry failing isResult)
    · rintro other ⟨failing, isResult, -⟩
      exact ⟨_, exists_entry isResult⟩
  rw [resolved]
  refine .failed ?_
  cases settlement with
  | outputs cell => exact absurd ⟨cell, rfl⟩ failsHere
  | failed failure =>
    cases stands
    exact .failed least isResults earliest
  | interrupted interruption =>
    cases stands
    exact .interrupted least isResults earliest

/-- Assembled stores hold the outputs that count. -/
theorem stored_of_store {multi : MultiStore group} (assembled : store settled.merged = .ok multi) :
    (∀ metric, settled.results.Agree metric) ∧ settled.results.Stored multi := by
  obtain ⟨agree, stores⟩ := MultiStoreBuilder.get?_of_assemble assembled
  refine ⟨fun metric => agree_iff_rowAgrees.mpr (agree metric), ?_, ?_⟩
  · intro metric key
    refine Option.ext fun output => ?_
    rw [← mem_row_iff, Option.bind_eq_some_iff]
    constructor
    · rintro ⟨store, has, found⟩
      obtain ⟨first, -, rfl⟩ := (stores metric store).mp has
      exact SortedMap.get?_eq_some_iff.mp found
    · intro inRow
      obtain ⟨first, rest, isRow⟩ := List.exists_cons_of_ne_nil (List.ne_nil_of_mem inRow)
      have isFirst : first ∈ (MultiStoreBuilder.row settled.merged metric).entries.head? := by
        rw [isRow]
        rfl
      refine ⟨_, (stores metric _).mpr ⟨first, isFirst, rfl⟩, ?_⟩
      exact SortedMap.get?_eq_some_iff.mpr inRow
  · intro metric store has
    obtain ⟨first, isFirst, rfl⟩ := (stores metric store).mp has
    exact ⟨first.1, first.2, isReference_of_head? isFirst, rfl⟩

/-- Stores that do not assemble show the first mismatch. -/
theorem firstMismatch_of_store {cause : DataError} (failed : store settled.merged = .error cause)
    (present : ∃ metric key, (settled.results.winner? metric key).isSome) :
    settled.results.FirstMismatch cause := by
  obtain ⟨present, presentKey, has⟩ := present
  obtain ⟨output, isWinner⟩ := Option.isSome_iff_exists.mp has
  have hasOutput : ∃ metric, (MultiStoreBuilder.row settled.merged metric).entries ≠ [] :=
    ⟨present, List.ne_nil_of_mem (mem_row_iff.mpr isWinner)⟩
  obtain ⟨metric, first, before, found, after, leastMetric, isFirst, isRow, agree, differs, rfl⟩ :=
    MultiStoreBuilder.mismatch_of_assemble failed hasOutput
  have isFound : settled.results.winner? metric found.1 = some found.2 := by
    rw [← mem_row_iff, isRow]
    simp
  refine .differs ?_ (isReference_of_head? isFirst) ?_ isFound
  · simpa only [agree_iff_rowAgrees] using leastMetric
  · refine SortedMap.least _ isRow ⟨found.2, isFound, differs⟩ ?_ ?_
    · rintro entry isEntry ⟨otherOutput, isOther, otherDiffers⟩
      have inRow : (entry.1, entry.2) ∈ (MultiStoreBuilder.row settled.merged metric).entries := by
        rw [isRow]
        exact List.mem_append_left _ isEntry
      obtain rfl := Option.some.inj ((mem_row_iff.mp inRow).symm.trans isOther)
      rw [agree entry isEntry] at otherDiffers
      cases otherDiffers
    · rintro other ⟨otherOutput, isOther, -⟩
      exact ⟨otherOutput, mem_row_iff.mpr isOther⟩

private theorem all_isEmpty_merged_iff :
    (settled.merged.values.all fun cell => cell.isEmpty) = true ↔
      ∀ key metric, settled.results.winner? metric key = none := by
  simp only [winner?_results, Option.bind_eq_none_iff, SortedMap.get?_eq_some_iff,
    SortedMap.values, List.all_map, List.all_eq_true, Function.comp_apply, SortedMap.isEmpty,
    List.isEmpty_iff]
  constructor
  · intro empty key metric cell member
    rw [SortedMap.get?, empty (key, cell) member]
    rfl
  · intro missing cell member
    refine List.eq_nil_iff_forall_not_mem.mpr fun entry isEntry => ?_
    have found := SortedMap.get?_eq_some_iff.mpr isEntry
    rw [missing cell.1 entry.1 cell.2 member] at found
    cases found

/-- Settled cells resolve to what their results determine. -/
theorem determine_resolve : settled.results.Determine settled.resolve := by
  rcases forall_or_exists_first
      (fun entry : CellKey × List (Settlement group) =>
        ∀ settlement ∈ entry.2, settlement.Succeeds) settled.entries with
    succeed | ⟨before, ⟨key, settlements⟩, after, split, earlier, fails⟩
  · have allSucceed := succeed_results_iff.mpr succeed
    rw [resolve, mergeCells_of_succeed succeed]
    simp only
    by_cases empty : (settled.merged.values.all fun cell => cell.isEmpty) = true
    · rw [if_pos empty]
      exact .nothing allSucceed fun metric key => all_isEmpty_merged_iff.mp empty key metric
    · rw [if_neg empty]
      have present : ∃ metric key, (settled.results.winner? metric key).isSome := by
        rw [all_isEmpty_merged_iff] at empty
        push Not at empty
        obtain ⟨key, metric, has⟩ := empty
        exact ⟨metric, key, Option.isSome_iff_ne_none.mpr has⟩
      cases assembled : store settled.merged with
      | ok multi =>
        obtain ⟨agree, stored⟩ := stored_of_store assembled
        exact .stored allSucceed present agree stored
      | error cause =>
        exact .inconsistent allSucceed (firstMismatch_of_store assembled present)
  · exact determine_of_split split earlier fails

end

end SettledCells

end Forecast
