import Forecast.Proofs.Output.Filing

/-!
# Assembling stores of several metrics

The outputs of cells are regrouped by metric: the row of a metric are its outputs cell by cell.  The
stores assemble just when the outputs of every row agree.  Otherwise the least metric whose outputs
disagree is named.
-/

namespace Forecast

namespace MultiStoreBuilder

variable {group : OutputGroup}

/-- The outputs of one metric, cell by cell. -/
def row (cells : SortedMap CellKey (CellOutputs group)) (metric : MetricKey) :
    SortedMap CellKey (Output group) :=
  cells.filterMap fun cell => cell.get? metric

/-- The builder of the outputs of all cells. -/
def ofCells (cells : List (CellKey × CellOutputs group)) : MultiStoreBuilder group :=
  cells.foldl (fun builder cell => builder.add cell.1 cell.2) {}

/-- Outputs in the order in which they are put, by metric. -/
def puts (cells : List (CellKey × CellOutputs group)) : List (Filing group) :=
  cells.flatMap fun cell => cell.2.entries.map fun entry => (entry.1, (cell.1, entry.2))

/-- Cells are filed one after the other. -/
theorem ofCells_eq (cells : List (CellKey × CellOutputs group)) :
    ofCells cells = ofFilings (puts cells) := by
  have delivered : ofCells cells
      = ofDeliveries (cells.map fun cell => Delivery.cell cell.1 cell.2) := by
    rw [ofCells, ofDeliveries, List.foldl_map]
    rfl
  rw [delivered, ofDeliveries_eq, List.flatMap_map]
  rfl

/-- What is put under a metric is its row. -/
theorem under_puts (cells : SortedMap CellKey (CellOutputs group)) (metric : MetricKey) :
    under (puts cells.entries) metric = (row cells metric).entries := by
  rw [puts, row, SortedMap.filterMap]
  simp only
  induction cells.entries with
  | nil => rfl
  | cons cell rest ih =>
    have one : under (cell.2.entries.map fun entry => (entry.1, (cell.1, entry.2))) metric
        = ((cell.2.get? metric).map fun output => (cell.1, output)).toList := by
      rw [Option.toList_map, ← cell.2.under_entries metric]
      simp [under, List.filter_map, Function.comp_def]
    rw [List.flatMap_cons, under_append, one, ih, List.filterMap_cons]
    cases cell.2.get? metric <;> rfl

/-- The builder of a metric has been given its outputs in the order of the cells. -/
theorem get?_builders (cells : SortedMap CellKey (CellOutputs group)) (metric : MetricKey) :
    (ofCells cells.entries).builders.get? metric =
      if (row cells metric).entries = [] then none
      else some (.putAll {} (row cells metric).entries) := by
  rw [ofCells_eq, get?_builders_ofFilings, under_puts]

/-- The first builder that fails makes the whole fail. -/
theorem exists_failing_of_assemble {builder : MultiStoreBuilder group}
    (occupied : builder.builders.entries ≠ []) {cause : DataError}
    (failed : builder.assemble = .error cause) :
    ∃ before failing after, builder.builders.entries = before ++ failing :: after
      ∧ (∀ earlier ∈ before, ∃ store, earlier.2.assemble = .ok store)
      ∧ failing.2.assemble = .error cause := by
  have notEmpty : builder.builders.isEmpty = false := by
    rwa [SortedMap.isEmpty, List.isEmpty_eq_false_iff]
  rw [assemble, notEmpty, if_neg Bool.false_ne_true] at failed
  rcases bind_eq_error_iff.mp failed with failed | ⟨_, -, ⟨⟩⟩
  exact SortedMap.traverse_eq_error_iff.mp failed

section

variable {cells : SortedMap CellKey (CellOutputs group)}

/-- Outputs of a metric that are minimally equal to the first of them. -/
def RowAgrees (cells : SortedMap CellKey (CellOutputs group)) (metric : MetricKey) : Prop :=
  ∀ first ∈ (row cells metric).entries.head?, ∀ entry ∈ (row cells metric).entries,
    entry.2.metadata.minimallyEqual first.2.metadata = true

theorem mem_builders_iff {metric : MetricKey} {builder : StoreBuilder group} :
    (metric, builder) ∈ (ofCells cells.entries).builders.entries ↔
      (row cells metric).entries ≠ [] ∧ builder = .putAll {} (row cells metric).entries := by
  rw [← SortedMap.get?_eq_some_iff, get?_builders]
  by_cases missing : (row cells metric).entries = [] <;> simp [missing, eq_comm]

/-- The store of a metric assembles just when its outputs agree. -/
theorem assemble_eq_ok_iff {metric : MetricKey} {builder : StoreBuilder group}
    (present : (metric, builder) ∈ (ofCells cells.entries).builders.entries) {store : Store group} :
    builder.assemble = .ok store ↔
      RowAgrees cells metric
        ∧ ∃ first ∈ (row cells metric).entries.head?,
          store = ⟨row cells metric, first.2.metadata⟩ := by
  obtain ⟨nonempty, rfl⟩ := mem_builders_iff.mp present
  obtain ⟨first, rest, isRow⟩ := List.exists_cons_of_ne_nil nonempty
  have head : (row cells metric).entries.head? = some first := by rw [isRow, List.head?_cons]
  rw [RowAgrees, StoreBuilder.assemble_putAll_eq_ok_iff isRow, head]
  simp

/-- What the assembled stores hold. -/
theorem get?_of_assemble {multi : MultiStore group}
    (assembled : (ofCells cells.entries).assemble = .ok multi) :
    (∀ metric, RowAgrees cells metric)
      ∧ ∀ metric store, multi.get? metric = some store ↔
        ∃ first ∈ (row cells metric).entries.head?,
          store = ⟨row cells metric, first.2.metadata⟩ := by
  obtain ⟨assembles, stores⟩ := get?_of_assemble_eq_ok assembled
  have agree (metric : MetricKey) : RowAgrees cells metric := by
    by_cases missing : (row cells metric).entries = []
    · simp [RowAgrees, missing]
    · have present := mem_builders_iff.mpr ⟨missing, rfl⟩
      obtain ⟨store, assembled⟩ := assembles metric _ (SortedMap.get?_eq_some_iff.mpr present)
      exact ((assemble_eq_ok_iff present).mp assembled).1
  refine ⟨agree, fun metric store => ?_⟩
  rw [stores]
  constructor
  · rintro ⟨builder, isBuilder, assembled⟩
    exact ((assemble_eq_ok_iff (SortedMap.get?_eq_some_iff.mp isBuilder)).mp assembled).2
  · rintro ⟨first, isFirst, made⟩
    have nonempty : (row cells metric).entries ≠ [] := by
      intro missing
      simp [missing] at isFirst
    have present := mem_builders_iff.mpr ⟨nonempty, rfl⟩
    exact ⟨_, SortedMap.get?_eq_some_iff.mpr present,
      (assemble_eq_ok_iff present).mpr ⟨agree metric, first, isFirst, made⟩⟩

/-- The least metric whose outputs disagree is named, with the first of them that does. -/
theorem mismatch_of_assemble {cause : DataError}
    (failed : (ofCells cells.entries).assemble = .error cause)
    (hasOutput : ∃ metric, (row cells metric).entries ≠ []) :
    ∃ metric first before found after, Least (fun other => ¬RowAgrees cells other) metric
      ∧ (row cells metric).entries.head? = some first
      ∧ (row cells metric).entries = before ++ found :: after
      ∧ (∀ earlier ∈ before, earlier.2.metadata.minimallyEqual first.2.metadata = true)
      ∧ found.2.metadata.minimallyEqual first.2.metadata = false
      ∧ cause = .metadataMismatch (.entry found.1 found.2.metadata first.2.metadata) := by
  obtain ⟨present, nonempty⟩ := hasOutput
  have isBuilder := mem_builders_iff.mpr ⟨nonempty, rfl⟩
  obtain ⟨before, ⟨metric, builder⟩, after, split, fine, fails⟩ :=
    exists_failing_of_assemble (List.ne_nil_of_mem isBuilder) failed
  have member : (metric, builder) ∈ (ofCells cells.entries).builders.entries := by simp [split]
  obtain ⟨hasRow, rfl⟩ := mem_builders_iff.mp member
  obtain ⟨first, rest, isRow⟩ := List.exists_cons_of_ne_nil hasRow
  have head : (row cells metric).entries.head? = some first := by rw [isRow, List.head?_cons]
  obtain ⟨agreeing, found, others, rowSplit, agree, differs, rfl⟩ :=
    (StoreBuilder.assemble_putAll_eq_error_iff isRow).mp fails
  refine ⟨metric, first, agreeing, found, others, ?_, head, rowSplit, agree, differs, rfl⟩
  -- Builders stand in the order of their metrics, so the first one that fails is of the least.
  refine (ofCells cells.entries).builders.least split ?_ ?_ ?_
  · intro agrees
    have same := agrees first head found (by simp [rowSplit])
    rw [differs] at same
    cases same
  · intro earlier inBefore
    obtain ⟨store, assembles⟩ := fine earlier inBefore
    have inBuilders : earlier ∈ (ofCells cells.entries).builders.entries := by
      rw [split]
      exact List.mem_append_left _ inBefore
    exact not_not_intro ((assemble_eq_ok_iff inBuilders).mp assembles).1
  · intro other disagrees
    have hasOther : (row cells other).entries ≠ [] := by
      intro missing
      exact disagrees (by simp [RowAgrees, missing])
    exact ⟨_, mem_builders_iff.mpr ⟨hasOther, rfl⟩⟩

end

end MultiStoreBuilder

end Forecast
