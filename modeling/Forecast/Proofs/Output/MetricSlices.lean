import Forecast.Proofs.Output.Filing
import Forecast.Proofs.Output.Slices

/-!
# Slices of stores of several metrics

A slice of a multi-store slices the store of every metric, and a metric is left out just when its
own store has no slice.  So the outputs of a slice are those at the cells that are classified as its
value, whatever metric they are filed under; the slices at the windows or thresholds that occur
partition the outputs; and no metric is left with an empty store.
-/

namespace Forecast

variable {group : OutputGroup}

/-- Multi-stores that are built from what is delivered, or sliced. -/
inductive MultiStore.Reachable : MultiStore group → Prop where
  | build {deliveries : List (Delivery group)} {multi : MultiStore group}
      (built : (MultiStoreBuilder.ofDeliveries deliveries).build = .ok multi) : Reachable multi
  | sliceByWindow {multi slice : MultiStore group} (before : Reachable multi) (window : TimeWindow)
      (sliced : multi.sliceByWindow? window = some slice) : Reachable slice
  | sliceByThreshold {multi slice : MultiStore group} (before : Reachable multi)
      (threshold : Threshold) (sliced : multi.sliceByThreshold? threshold = some slice) :
      Reachable slice

namespace MultiStore

/-- An output is filed under a metric and at a cell. -/
def Holds (multi : MultiStore group) (metric : MetricKey) (key : CellKey) (output : Output group) :
    Prop :=
  ∃ store, multi.get? metric = some store ∧ store.get? key = some output

/-- A slice has exactly what is classified as the value: the metrics with such an output, and of
each of them such outputs and the metadata. -/
structure IsSlice {κ : Type} [DecidableEq κ] (multi : MultiStore group) (classify : CellKey → κ)
    (value : κ) (slice : MultiStore group) : Prop where
  /-- Metrics are those with an output at the value. -/
  metrics : ∀ metric, metric ∈ slice.metrics ↔
    ∃ key output, multi.Holds metric key output ∧ classify key = value
  /-- The store of a metric is cut down to the value. -/
  stores : ∀ metric store part, multi.get? metric = some store → slice.get? metric = some part →
    part.metadata = store.metadata ∧ StrictlyAscending part.keys
      ∧ ∀ entry, entry ∈ part.entries.entries ↔
        entry ∈ store.entries.entries ∧ classify entry.1 = value
  /-- Outputs of all metrics together. -/
  holds : ∀ metric key output, slice.Holds metric key output ↔
    multi.Holds metric key output ∧ classify key = value
  /-- Cells of all metrics together, in the same order. -/
  keys : slice.keys = multi.keys.filter fun key => classify key = value

/-- Slices at values are exact, and partition the outputs of all metrics. -/
structure SlicedBy {κ : Type} [Ord κ] [DecidableEq κ] (multi : MultiStore group)
    (classify : CellKey → κ) (values : List κ) (slice : κ → Option (MultiStore group)) : Prop where
  /-- A slice is missing just when no cell of any metric is classified as the value. -/
  missing : ∀ value, slice value = none ↔ ∀ key ∈ multi.keys, classify key ≠ value
  /-- Other slices have exactly what is classified as the value. -/
  exact : ∀ value part, slice value = some part → multi.IsSlice classify value part
  /-- Every value is listed once. -/
  distinct : StrictlyAscending values
  /-- The values that are listed are those with a slice. -/
  listed : ∀ value, value ∈ values ↔ ∃ part, slice value = some part
  /-- Every output is in the slice at one of the values. -/
  together : ∀ metric key output, multi.Holds metric key output ↔
    ∃ value ∈ values, ∃ part, slice value = some part ∧ part.Holds metric key output
  /-- Different slices have no cell of a metric in common. -/
  disjoint : ∀ left right leftPart rightPart, left ≠ right → slice left = some leftPart →
    slice right = some rightPart → ∀ metric key output, leftPart.Holds metric key output →
    ∀ other, ¬rightPart.Holds metric key other
  /-- A slice has a metric, and no metric of it an empty store. -/
  occupied : ∀ value part, slice value = some part → part.metrics ≠ []
    ∧ ∀ metric store, part.get? metric = some store → store.keys ≠ []

/-! ## Consistency -/

/-- There are metrics, and each of them has a consistent store. -/
structure Consistent (multi : MultiStore group) : Prop where
  /-- There is a metric. -/
  nonempty : multi.stores.entries ≠ []
  /-- Every store is consistent. -/
  stores : ∀ metric store, multi.get? metric = some store → store.Consistent

theorem Consistent.of_build {deliveries : List (Delivery group)} {multi : MultiStore group}
    (built : (MultiStoreBuilder.ofDeliveries deliveries).build = .ok multi) : multi.Consistent := by
  rw [MultiStoreBuilder.build, mapError_eq_ok_iff, MultiStoreBuilder.ofDeliveries_eq] at built
  generalize deliveries.flatMap Delivery.filings = filings at built
  refine ⟨?_, fun metric store has => ?_⟩
  · cases filings with
    | nil => cases built
    | cons filing rest =>
      obtain ⟨store, has⟩ := MultiStoreBuilder.exists_store_of_filing built List.mem_cons_self
      exact List.ne_nil_of_mem (SortedMap.get?_eq_some_iff.mp has)
  · exact (MultiStoreBuilder.get?_store_of_filings built has).1

section

variable {multi : MultiStore group}

theorem holds_iff {metric : MetricKey} {store : Store group}
    (has : multi.get? metric = some store) {key : CellKey} {output : Output group} :
    multi.Holds metric key output ↔ (key, output) ∈ store.entries.entries := by
  rw [← SortedMap.get?_eq_some_iff, Holds, has]
  simp [Store.get?]

theorem mem_keys_store_iff {metric : MetricKey} {store : Store group}
    (has : multi.get? metric = some store) {key : CellKey} :
    key ∈ store.keys ↔ ∃ output, multi.Holds metric key output := by
  simp only [holds_iff has]
  exact SortedMap.mem_keys_iff

/-- Every metric has an output. -/
theorem Consistent.mem_metrics_iff (consistent : multi.Consistent) {metric : MetricKey} :
    metric ∈ multi.metrics ↔ ∃ key output, multi.Holds metric key output := by
  rw [metrics, ← SortedMap.isSome_get?_iff, Option.isSome_iff_exists]
  constructor
  · rintro ⟨store, has⟩
    obtain ⟨⟨key, output⟩, isEntry⟩ :=
      List.exists_mem_of_ne_nil _ (consistent.stores metric store has).nonempty
    exact ⟨key, output, (holds_iff has).mpr isEntry⟩
  · rintro ⟨_, _, store, has, -⟩
    exact ⟨store, has⟩

theorem mem_keys_iff {key : CellKey} :
    key ∈ multi.keys ↔ ∃ metric output, multi.Holds metric key output := by
  rw [keys, mem_sortedDistinct, List.mem_flatMap]
  constructor
  · rintro ⟨store, isStore, isKey⟩
    obtain ⟨⟨metric, _⟩, isEntry, rfl⟩ := List.mem_map.mp isStore
    have has : multi.get? metric = some _ := SortedMap.get?_eq_some_iff.mpr isEntry
    exact ⟨metric, (mem_keys_store_iff has).mp isKey⟩
  · rintro ⟨metric, output, holds⟩
    obtain ⟨store, has, -⟩ := id holds
    have isEntry := SortedMap.get?_eq_some_iff.mp has
    exact ⟨store, List.mem_map_of_mem isEntry, (mem_keys_store_iff has).mpr ⟨output, holds⟩⟩

end

/-! ## Restrictions -/

theorem restrict?_eq_none_iff {slice : Store group → Option (Store group)}
    {multi : MultiStore group} :
    multi.restrict? slice = none ↔
      ∀ metric store, (metric, store) ∈ multi.stores.entries → slice store = none := by
  have empty : (multi.stores.filterMap slice).isEmpty = true ↔
      ∀ metric store, (metric, store) ∈ multi.stores.entries → slice store = none := by
    simp [SortedMap.isEmpty, SortedMap.filterMap, List.filterMap_eq_nil_iff]
  rw [restrict?, ← empty]
  split <;> simp_all

theorem restrict?_eq_some_iff {slice : Store group → Option (Store group)}
    {multi part : MultiStore group} :
    multi.restrict? slice = some part ↔
      part = ⟨multi.stores.filterMap slice⟩
        ∧ ∃ metric store, (metric, store) ∈ multi.stores.entries ∧ slice store ≠ none := by
  have present : (∃ metric store, (metric, store) ∈ multi.stores.entries ∧ slice store ≠ none) ↔
      multi.restrict? slice ≠ none := by
    simp [restrict?_eq_none_iff]
  rw [present, restrict?]
  split <;> simp [eq_comm]

/-- Slices may be sliced at once. -/
theorem restrict?_bind_restrict? (multi : MultiStore group)
    (first second : Store group → Option (Store group)) :
    ((multi.restrict? first).bind fun slice => slice.restrict? second)
      = multi.restrict? fun store => (first store).bind second := by
  have both : (multi.stores.filterMap first).filterMap second
      = multi.stores.filterMap fun store => (first store).bind second := by
    refine SortedMap.entries_inj.mp ?_
    simp only [SortedMap.filterMap, List.filterMap_filterMap]
    refine List.filterMap_congr fun entry _ => ?_
    cases first entry.2 <;> rfl
  refine Option.ext fun slice => ?_
  simp only [Option.bind_eq_some_iff, restrict?_eq_some_iff, ← both]
  constructor
  · rintro ⟨_, ⟨rfl, -⟩, rfl, metric, part, isPart, present⟩
    obtain ⟨store, isStore, sliced⟩ := SortedMap.mem_filterMap.mp isPart
    exact ⟨rfl, metric, store, isStore, by simpa [sliced] using present⟩
  · rintro ⟨rfl, metric, store, isStore, present⟩
    cases sliced : first store with
    | none => simp [sliced] at present
    | some part =>
      exact ⟨_, ⟨rfl, metric, store, isStore, by simp [sliced]⟩, rfl, metric, part,
        SortedMap.mem_filterMap.mpr ⟨store, isStore, sliced⟩, by simpa [sliced] using present⟩

theorem Consistent.restrict? {multi : MultiStore group} (consistent : multi.Consistent)
    {slice : Store group → Option (Store group)}
    (keeps : ∀ store part, store.Consistent → slice store = some part → part.Consistent)
    {sliced : MultiStore group} (restricted : multi.restrict? slice = some sliced) :
    sliced.Consistent := by
  obtain ⟨rfl, metric, store, isStore, present⟩ := restrict?_eq_some_iff.mp restricted
  refine ⟨?_, fun other part has => ?_⟩
  · obtain ⟨part, isPart⟩ := Option.ne_none_iff_exists'.mp present
    exact List.ne_nil_of_mem (SortedMap.mem_filterMap.mpr ⟨store, isStore, isPart⟩)
  · obtain ⟨whole, isWhole, isPart⟩ :=
      SortedMap.mem_filterMap.mp (SortedMap.get?_eq_some_iff.mp has)
    exact keeps whole part
      (consistent.stores other whole (SortedMap.get?_eq_some_iff.mpr isWhole)) isPart

theorem Reachable.consistent {multi : MultiStore group} (reachable : multi.Reachable) :
    multi.Consistent := by
  induction reachable with
  | build built => exact .of_build built
  | sliceByWindow _ _ sliced ih =>
    exact ih.restrict? (fun _ _ whole part => whole.restrict? part) sliced
  | sliceByThreshold _ _ sliced ih =>
    exact ih.restrict? (fun _ _ whole part => whole.restrict? part) sliced

/-! ## Slices by a classification -/

/-- Every store cut down to the cells that are classified as the value. -/
def cut? {κ : Type} [DecidableEq κ] (multi : MultiStore group) (classify : CellKey → κ)
    (value : κ) : Option (MultiStore group) :=
  multi.restrict? fun store => store.restrict? fun key => classify key = value

section

variable {κ : Type} [DecidableEq κ] {multi part : MultiStore group} {classify : CellKey → κ}
  {value : κ}

theorem cut?_eq_none_iff :
    multi.cut? classify value = none ↔ ∀ key ∈ multi.keys, classify key ≠ value := by
  simp only [cut?, restrict?_eq_none_iff, Store.restrict?_eq_none_iff, decide_eq_false_iff_not,
    mem_keys_iff]
  constructor
  · rintro none key ⟨metric, output, holds⟩
    obtain ⟨store, has, -⟩ := id holds
    exact none metric store (SortedMap.get?_eq_some_iff.mp has) key
      ((mem_keys_store_iff has).mpr ⟨output, holds⟩)
  · intro none metric store isStore key isKey
    have has : multi.get? metric = some store := SortedMap.get?_eq_some_iff.mpr isStore
    obtain ⟨output, holds⟩ := (mem_keys_store_iff has).mp isKey
    exact none key ⟨metric, output, holds⟩

variable (isCut : multi.cut? classify value = some part)

include isCut

theorem Consistent.cut? (consistent : multi.Consistent) : part.Consistent :=
  consistent.restrict? (fun _ _ whole restricted => whole.restrict? restricted) isCut

/-- The store of a metric in a slice. -/
theorem get?_cut {metric : MetricKey} {sliced : Store group} :
    part.get? metric = some sliced ↔
      ∃ store, multi.get? metric = some store ∧ sliced = store.part classify value
        ∧ ∃ key ∈ store.keys, classify key = value := by
  obtain ⟨rfl, -⟩ := restrict?_eq_some_iff.mp isCut
  rw [get?, SortedMap.get?_eq_some_iff, SortedMap.mem_filterMap]
  simp only [Store.restrict?_eq_some_part_iff, ← SortedMap.get?_eq_some_iff, get?]

theorem holds_cut {metric : MetricKey} {key : CellKey} {output : Output group} :
    part.Holds metric key output ↔ multi.Holds metric key output ∧ classify key = value := by
  constructor
  · rintro ⟨sliced, has, found⟩
    have holds : part.Holds metric key output := ⟨sliced, has, found⟩
    rw [holds_iff has] at holds
    obtain ⟨store, isStore, rfl, -⟩ := (get?_cut isCut).mp has
    rwa [Store.mem_part, ← holds_iff isStore] at holds
  · rintro ⟨holds, classified⟩
    obtain ⟨store, isStore, -⟩ := id holds
    have isKey : key ∈ store.keys := (mem_keys_store_iff isStore).mpr ⟨output, holds⟩
    have has : part.get? metric = some (store.part classify value) :=
      (get?_cut isCut).mpr ⟨store, isStore, rfl, key, isKey, classified⟩
    rw [holds_iff has, Store.mem_part]
    exact ⟨(holds_iff isStore).mp holds, classified⟩

theorem isSlice_cut (consistent : multi.Consistent) : multi.IsSlice classify value part := by
  have partConsistent : part.Consistent := Consistent.cut? isCut consistent
  constructor
  case metrics =>
    intro metric
    simp only [partConsistent.mem_metrics_iff, holds_cut isCut]
  case stores =>
    intro metric store sliced isStore has
    obtain ⟨whole, isWhole, rfl, -⟩ := (get?_cut isCut).mp has
    obtain rfl : store = whole := Option.some.inj (isStore.symm.trans isWhole)
    exact ⟨rfl, (store.part classify value).entries.ascending, fun entry => Store.mem_part⟩
  case holds => exact fun metric key output => holds_cut isCut
  case keys =>
    refine (strictlyAscending_sortedDistinct _).eq_of_mem_iff
      ((strictlyAscending_sortedDistinct _).filter _) fun key => ?_
    change key ∈ part.keys ↔ key ∈ multi.keys.filter _
    simp only [mem_keys_iff, holds_cut isCut, List.mem_filter, decide_eq_true_eq,
      exists_and_right]

end

/-- Slices at the values of all cells are exact, and a partition. -/
theorem slicedBy_cut {κ : Type} [Ord κ] [DecidableEq κ] {multi : MultiStore group}
    {classify : CellKey → κ} {values : List κ} (consistent : multi.Consistent)
    (ascending : StrictlyAscending values)
    (occur : ∀ value, value ∈ values ↔ ∃ key ∈ multi.keys, classify key = value) :
    multi.SlicedBy classify values (multi.cut? classify) := by
  have listed (value : κ) : value ∈ values ↔ ∃ part, multi.cut? classify value = some part := by
    rw [← Option.ne_none_iff_exists', Ne, cut?_eq_none_iff, occur]
    simp
  constructor
  case missing => exact fun value => cut?_eq_none_iff
  case exact => exact fun value part isCut => isSlice_cut isCut consistent
  case distinct => exact ascending
  case listed => exact listed
  case together =>
    intro metric key output
    constructor
    · intro holds
      have isKey : key ∈ multi.keys := mem_keys_iff.mpr ⟨metric, output, holds⟩
      have isValue : classify key ∈ values := (occur _).mpr ⟨key, isKey, rfl⟩
      obtain ⟨part, isCut⟩ := (listed _).mp isValue
      exact ⟨_, isValue, part, isCut, (holds_cut isCut).mpr ⟨holds, rfl⟩⟩
    · rintro ⟨value, -, part, isCut, holds⟩
      exact ((holds_cut isCut).mp holds).1
  case disjoint =>
    intro left right _ _ differ leftCut rightCut metric key output inLeft other inRight
    obtain ⟨-, isLeft⟩ := (holds_cut leftCut).mp inLeft
    obtain ⟨-, isRight⟩ := (holds_cut rightCut).mp inRight
    exact differ (isLeft.symm.trans isRight)
  case occupied =>
    intro value part isCut
    have partConsistent : part.Consistent := Consistent.cut? isCut consistent
    refine ⟨fun none => partConsistent.nonempty (List.map_eq_nil_iff.mp none), ?_⟩
    intro metric store has none
    exact (partConsistent.stores metric store has).nonempty (List.map_eq_nil_iff.mp none)

/-! ## Slices by windows and thresholds -/

section

variable {multi : MultiStore group}

theorem mem_windows_iff {window : TimeWindow} :
    window ∈ multi.windows ↔ ∃ key ∈ multi.keys, key.window = window := by
  simp only [windows, keys, mem_sortedDistinct, List.mem_flatMap, Store.mem_windows_iff]
  grind

theorem mem_thresholds_iff {threshold : Threshold} :
    threshold ∈ multi.thresholds ↔ ∃ key ∈ multi.keys, key.threshold = threshold := by
  simp only [thresholds, keys, mem_sortedDistinct, List.mem_flatMap, Store.mem_thresholds_iff]
  grind

/-- It does not matter whether the window or the threshold comes first, also for the metrics that
are left. -/
theorem sliceByWindow?_bind_comm (window : TimeWindow) (threshold : Threshold) :
    ((multi.sliceByWindow? window).bind fun slice => slice.sliceByThreshold? threshold)
      = (multi.sliceByThreshold? threshold).bind fun slice => slice.sliceByWindow? window := by
  simp only [sliceByWindow?, sliceByThreshold?, restrict?_bind_restrict?, Store.sliceByWindow?,
    Store.sliceByThreshold?, Store.restrict?_bind_restrict?, Bool.and_comm]

end

/-- Slices at a window or a threshold are missing just when no metric has a cell there, and
otherwise have exactly the outputs there, under the same metrics and metadata; they partition the
outputs, leave no store empty, and may be taken in either order. -/
theorem Reachable.slices_exact {multi : MultiStore group} (reachable : multi.Reachable) :
    multi.SlicedBy CellKey.window multi.windows multi.sliceByWindow?
      ∧ multi.SlicedBy CellKey.threshold multi.thresholds multi.sliceByThreshold?
      ∧ ∀ window threshold,
        ((multi.sliceByWindow? window).bind fun slice => slice.sliceByThreshold? threshold)
          = (multi.sliceByThreshold? threshold).bind fun slice => slice.sliceByWindow? window := by
  have consistent := reachable.consistent
  refine ⟨?_, ?_, sliceByWindow?_bind_comm⟩
  · exact slicedBy_cut consistent (strictlyAscending_sortedDistinct _) fun _ => mem_windows_iff
  · exact slicedBy_cut consistent (strictlyAscending_sortedDistinct _) fun _ => mem_thresholds_iff

/-- Two metrics, one of which has no output at the later of two windows. -/
def uneven : List (Delivery .doubleScore) :=
  let late : TimeWindow := { TimeWindow.unbounded with latestLead := ⟨Duration.second⟩ }
  let output (metric : Metric) : Output .doubleScore := ⟨.one, { metric }⟩
  [.single ⟨.meanError, none⟩ ⟨late, .allData⟩ (output .meanError),
    .cell ⟨.unbounded, ⟨.less, some ⟨.one, none⟩, none, none⟩⟩
      (SortedMap.ofList [(⟨.meanError, none⟩, output .meanError),
        (⟨.biasFraction, none⟩, output .biasFraction)])]

/-- A metric is missing from the slice at a window, and both from the one at a window and a
threshold that do not meet. -/
theorem Reachable.slices_exact_uneven :
    let late : TimeWindow := { TimeWindow.unbounded with latestLead := ⟨Duration.second⟩ }
    ∃ multi, (MultiStoreBuilder.ofDeliveries uneven).build = .ok multi
      ∧ (∃ part, multi.sliceByWindow? late = some part ∧ part.keys = [⟨late, .allData⟩]
        ∧ ⟨.meanError, none⟩ ∈ part.metrics ∧ ⟨.biasFraction, none⟩ ∉ part.metrics)
      ∧ multi.sliceByThreshold? ⟨.less, some ⟨.zero, none⟩, none, none⟩ = none
      ∧ ((multi.sliceByThreshold? .allData).bind fun slice => slice.sliceByWindow? .unbounded)
        = none := by
  intro late
  obtain ⟨multi, built⟩ : ∃ multi, (MultiStoreBuilder.ofDeliveries uneven).build = .ok multi :=
    ⟨_, rfl⟩
  obtain ⟨windows, thresholds, comm⟩ := Reachable.slices_exact (.build built)
  cases built
  refine ⟨_, rfl, ⟨_, rfl, ?_, ?_, ?_⟩, ?_, ?_⟩
  · exact (windows.exact late _ rfl).keys.trans (by decide)
  · rw [(windows.exact late _ rfl).metrics]
    exact ⟨⟨late, .allData⟩, _, ⟨_, rfl, rfl⟩, rfl⟩
  · decide
  · exact (thresholds.missing _).mpr (by decide)
  · exact (comm .unbounded .allData).symm

end MultiStore

end Forecast
