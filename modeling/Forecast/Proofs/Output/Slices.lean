import Forecast.Proofs.Output.Combination

/-!
# Slices of stores

A store is sliced by what its cells are classified as: their windows, their thresholds, or the
bounds of their leads.  The slices at the values that occur are a partition of its outputs, of which
the store is the combination, in any order.  A slice at a window and a threshold, whichever is taken
first, has the one output at this cell.
-/

namespace Forecast

theorem TimeWindow.sameLeads_iff {left right : TimeWindow} :
    left.sameLeads right = true ↔ left.leadBounds = right.leadBounds := by
  simp [sameLeads, leadBounds]

namespace Store

variable {group : OutputGroup}

/-- Slices at values partition the outputs of a store, and are combined to it. -/
structure PartitionedBy {κ : Type} (store : Store group) (classify : CellKey → κ)
    (values : List κ) (slice : κ → Option (Store group)) : Prop where
  /-- A slice has the outputs whose cells are classified as its value, and the metadata. -/
  sliced : ∀ value ∈ values, ∃ part, slice value = some part
    ∧ part.metadata = store.metadata ∧ StrictlyAscending part.keys
    ∧ ∀ entry, entry ∈ part.entries.entries ↔
      entry ∈ store.entries.entries ∧ classify entry.1 = value
  /-- Different slices have no cell in common. -/
  disjoint : ∀ left ∈ values, ∀ right ∈ values, left ≠ right → ∀ leftPart rightPart,
    slice left = some leftPart → slice right = some rightPart →
    ∀ key ∈ leftPart.keys, key ∉ rightPart.keys
  /-- Every output is in a slice. -/
  together : ∀ entry, entry ∈ store.entries.entries ↔
    ∃ value ∈ values, ∃ part, slice value = some part ∧ entry ∈ part.entries.entries
  /-- The slices are combined to the store in any order. -/
  restored : ∀ order, order.Perm values → ∃ parts,
    List.Forall₂ (fun value part => slice value = some part) order parts
      ∧ combine parts = .ok store
  /-- A slice with as many outputs as the store is the store itself. -/
  whole : ∀ value ∈ values, ∀ part, slice value = some part →
    part.entries.size = store.entries.size → part = store

/-! ## Restrictions -/

/-- A restriction may be restricted at once. -/
theorem restrict?_bind_restrict? (store : Store group) (first second : CellKey → Bool) :
    ((store.restrict? first).bind fun slice => slice.restrict? second)
      = store.restrict? fun key => first key && second key := by
  refine Option.ext fun slice => ?_
  have both : (store.entries.filter fun key _ => first key && second key)
      = (store.entries.filter fun key _ => first key).filter fun key _ => second key := by
    simp only [SortedMap.filter, List.filter_filter, Bool.and_comm]
  simp only [Option.bind_eq_some_iff, restrict?_eq_some_iff, both, Bool.and_eq_true]
  constructor
  · rintro ⟨_, ⟨rfl, -⟩, rfl, key, isKey, kept⟩
    obtain ⟨isKey, before⟩ := SortedMap.mem_keys_filter.mp isKey
    exact ⟨rfl, key, isKey, before, kept⟩
  · rintro ⟨rfl, key, isKey, before, kept⟩
    exact ⟨_, ⟨rfl, key, isKey, before⟩, rfl, key, SortedMap.mem_keys_filter.mpr ⟨isKey, before⟩,
      kept⟩

/-- The store of the output at a cell, if there is one. -/
def only? (store : Store group) (key : CellKey) : Option (Store group) :=
  (store.get? key).map fun output => ⟨.ofList [(key, output)], store.metadata⟩

theorem restrict?_key (store : Store group) (key : CellKey) :
    (store.restrict? fun other => other = key) = store.only? key := by
  have entries : (store.entries.filter fun other _ => other = key)
      = .ofList ((store.get? key).toList.map fun output => (key, output)) := by
    refine SortedMap.entries_inj.mp ((store.entries.filter_key key).trans ?_)
    rw [get?]
    cases store.entries.get? key <;> rfl
  rw [restrict?_eq, entries, only?]
  cases store.get? key <;> rfl

/-! ## Partitions -/

/-- The outputs whose cells are classified as the value. -/
def part {κ : Type} [DecidableEq κ] (store : Store group) (classify : CellKey → κ) (value : κ) :
    Store group :=
  ⟨store.entries.filter fun key _ => classify key = value, store.metadata⟩

section

variable {κ : Type} [DecidableEq κ] {store : Store group} {classify : CellKey → κ} {value : κ}

theorem mem_part {entry : CellKey × Output group} :
    entry ∈ (store.part classify value).entries.entries ↔
      entry ∈ store.entries.entries ∧ classify entry.1 = value := by
  simp [part, SortedMap.filter]

theorem mem_keys_part {key : CellKey} :
    key ∈ (store.part classify value).keys ↔ key ∈ store.keys ∧ classify key = value := by
  rw [keys, part, SortedMap.mem_keys_filter, decide_eq_true_eq, keys]

theorem restrict?_eq_some_part_iff {slice : Store group} :
    (store.restrict? fun key => classify key = value) = some slice ↔
      slice = store.part classify value ∧ ∃ key ∈ store.keys, classify key = value := by
  simp only [restrict?_eq_some_iff, decide_eq_true_eq, part]

theorem Consistent.part (consistent : store.Consistent)
    (present : ∃ key ∈ store.keys, classify key = value) :
    (store.part classify value).Consistent :=
  consistent.restrict? (restrict?_eq_some_part_iff.mpr ⟨rfl, present⟩)

theorem part_eq_of_size (same : (store.part classify value).entries.size = store.entries.size) :
    store.part classify value = store := by
  rw [part, filter_eq_of_size_eq same]

end

section

variable {κ : Type} [DecidableEq κ] {store : Store group} {classify : CellKey → κ} {values : List κ}
  (occur : ∀ value, value ∈ values ↔ ∃ key ∈ store.keys, classify key = value)

include occur

theorem restrict?_eq_none_iff_not_mem (value : κ) :
    (store.restrict? fun key => classify key = value) = none ↔ value ∉ values := by
  rw [restrict?_eq_none_iff, occur]
  simp

theorem mem_entries_iff_part (entry : CellKey × Output group) :
    entry ∈ store.entries.entries ↔
      ∃ value ∈ values, entry ∈ (store.part classify value).entries.entries := by
  simp only [mem_part]
  constructor
  · intro isEntry
    have isKey : entry.1 ∈ store.keys := SortedMap.mem_keys_iff.mpr ⟨entry.2, isEntry⟩
    exact ⟨_, (occur _).mpr ⟨entry.1, isKey, rfl⟩, isEntry, rfl⟩
  · rintro ⟨_, -, isEntry, -⟩
    exact isEntry

variable (consistent : store.Consistent)

include consistent

/-- The parts at the values that occur are combined to the store. -/
theorem combine_parts : combine (values.map (store.part classify)) = .ok store := by
  refine combine_eq_of_parts (fun entry => ?_) consistent ?_ ?_
  · rw [mem_entries_iff_part occur]
    simp only [List.mem_map, exists_exists_and_eq_and]
  · intro part member
    obtain ⟨value, isValue, rfl⟩ := List.mem_map.mp member
    exact consistent.part ((occur value).mp isValue)
  · intro part member
    obtain ⟨value, -, rfl⟩ := List.mem_map.mp member
    rfl

/-- Slices at the values that occur are a partition. -/
theorem partitionedBy {slice : κ → Option (Store group)}
    (slices : ∀ value ∈ values, slice value = store.restrict? fun key => classify key = value) :
    store.PartitionedBy classify values slice := by
  have isSlice {value : κ} (isValue : value ∈ values) :
      slice value = some (store.part classify value) := by
    rw [slices value isValue, restrict?_eq_some_part_iff]
    exact ⟨rfl, (occur value).mp isValue⟩
  have isPart {value : κ} (isValue : value ∈ values) {part : Store group}
      (sliced : slice value = some part) : part = store.part classify value := by
    rw [isSlice isValue] at sliced
    exact (Option.some.inj sliced).symm
  constructor
  case sliced =>
    intro value isValue
    exact ⟨_, isSlice isValue, rfl, (store.part classify value).entries.ascending,
      fun entry => mem_part⟩
  case disjoint =>
    intro left isLeft right isRight differ leftPart rightPart leftSlice rightSlice
      key inLeft inRight
    rw [isPart isLeft leftSlice, mem_keys_part] at inLeft
    rw [isPart isRight rightSlice, mem_keys_part] at inRight
    exact differ (inLeft.2.symm.trans inRight.2)
  case together =>
    intro entry
    rw [mem_entries_iff_part occur]
    refine exists_congr fun value => and_congr_right fun isValue => ?_
    rw [isSlice isValue]
    simp
  case restored =>
    intro order permutation
    have inOrder (value : κ) : value ∈ order ↔ ∃ key ∈ store.keys, classify key = value := by
      rw [permutation.mem_iff, occur]
    refine ⟨_, ?_, combine_parts inOrder consistent⟩
    rw [List.forall₂_map_right_iff, List.forall₂_same]
    exact fun value member => isSlice (permutation.mem_iff.mp member)
  case whole =>
    intro value isValue part sliced same
    rw [isPart isValue sliced] at same ⊢
    exact part_eq_of_size same

end

/-! ## Slices -/

section

variable {store : Store group}

theorem mem_windows_iff {window : TimeWindow} :
    window ∈ store.windows ↔ ∃ key ∈ store.keys, key.window = window := by
  simp [windows]

theorem mem_thresholds_iff {threshold : Threshold} :
    threshold ∈ store.thresholds ↔ ∃ key ∈ store.keys, key.threshold = threshold := by
  simp [thresholds]

theorem mem_leadWindows_iff {window : TimeWindow} :
    window ∈ store.leadWindows ↔ ∃ key ∈ store.keys, key.window.leadBounds = window := by
  simp [leadWindows]

theorem sliceByLead?_eq (window : TimeWindow) :
    store.sliceByLead? window
      = store.restrict? fun key => key.window.leadBounds = window.leadBounds := by
  have same (key : CellKey) :
      key.window.sameLeads window = decide (key.window.leadBounds = window.leadBounds) := by
    rw [Bool.eq_iff_iff, TimeWindow.sameLeads_iff, decide_eq_true_eq]
  simp only [sliceByLead?, same]

theorem sliceByWindow?_eq_none_iff {window : TimeWindow} :
    store.sliceByWindow? window = none ↔ window ∉ store.windows :=
  restrict?_eq_none_iff_not_mem (fun _ => mem_windows_iff) window

theorem sliceByThreshold?_eq_none_iff {threshold : Threshold} :
    store.sliceByThreshold? threshold = none ↔ threshold ∉ store.thresholds :=
  restrict?_eq_none_iff_not_mem (fun _ => mem_thresholds_iff) threshold

theorem sliceByLead?_eq_none_iff {window : TimeWindow} :
    store.sliceByLead? window = none ↔ window.leadBounds ∉ store.leadWindows := by
  rw [sliceByLead?_eq]
  exact restrict?_eq_none_iff_not_mem (fun _ => mem_leadWindows_iff) window.leadBounds

/-- A slice by leads tells the bounds of the leads, unless it is missing. -/
theorem sliceByLead?_congr_iff {first second : TimeWindow} :
    store.sliceByLead? first = store.sliceByLead? second ↔
      first.leadBounds = second.leadBounds
        ∨ first.leadBounds ∉ store.leadWindows ∧ second.leadBounds ∉ store.leadWindows := by
  constructor
  · intro same
    rw [← sliceByLead?_eq_none_iff, ← sliceByLead?_eq_none_iff, ← same, and_self]
    cases sliced : store.sliceByLead? first with
    | none => exact .inr rfl
    | some slice =>
      -- A cell of the slice has the bounds of both.
      have again := same.symm.trans sliced
      rw [sliceByLead?_eq, restrict?_eq_some_part_iff] at sliced again
      obtain ⟨rfl, key, isKey, leads⟩ := sliced
      have inSlice : key ∈ (store.part (fun key => key.window.leadBounds) first.leadBounds).keys :=
        mem_keys_part.mpr ⟨isKey, leads⟩
      rw [again.1, mem_keys_part] at inSlice
      exact .inl (leads.symm.trans inSlice.2)
  · rintro (equal | ⟨noFirst, noSecond⟩)
    · rw [sliceByLead?_eq, sliceByLead?_eq, equal]
    · rw [sliceByLead?_eq_none_iff.mpr noFirst, sliceByLead?_eq_none_iff.mpr noSecond]

variable (window : TimeWindow) (threshold : Threshold)

theorem sliceByWindow?_bind_sliceByThreshold? :
    ((store.sliceByWindow? window).bind fun slice => slice.sliceByThreshold? threshold)
      = store.only? ⟨window, threshold⟩ := by
  have both (key : CellKey) : (key.window == window && key.threshold == threshold)
      = decide (key = ⟨window, threshold⟩) := by
    obtain ⟨_, _⟩ := key
    rw [Bool.eq_iff_iff]
    simp
  simp only [sliceByWindow?, sliceByThreshold?, restrict?_bind_restrict?, both]
  exact restrict?_key store ⟨window, threshold⟩

/-- It does not matter whether the window or the threshold comes first. -/
theorem sliceByThreshold?_bind_sliceByWindow? :
    ((store.sliceByThreshold? threshold).bind fun slice => slice.sliceByWindow? window)
      = store.only? ⟨window, threshold⟩ := by
  rw [← sliceByWindow?_bind_sliceByThreshold?]
  simp only [sliceByWindow?, sliceByThreshold?, restrict?_bind_restrict?, Bool.and_comm]

end

/-- The slices at the windows, thresholds or leads of a store are each a partition of its outputs,
of which the store is the combination; no other slice has any.  Slices at a window and a threshold
have the one output at the cell, whichever is taken first.  Slices by leads are the same for the
same bounds on leads, and for bounds that the store does not have. -/
theorem Reachable.slices_partition {store : Store group} (reachable : store.Reachable) :
    (store.PartitionedBy CellKey.window store.windows store.sliceByWindow?
        ∧ ∀ window, store.sliceByWindow? window = none ↔ window ∉ store.windows)
      ∧ (store.PartitionedBy CellKey.threshold store.thresholds store.sliceByThreshold?
        ∧ ∀ threshold, store.sliceByThreshold? threshold = none ↔ threshold ∉ store.thresholds)
      ∧ (store.PartitionedBy (fun key => key.window.leadBounds) store.leadWindows
          store.sliceByLead?
        ∧ ∀ window, store.sliceByLead? window = none ↔ window.leadBounds ∉ store.leadWindows)
      ∧ (∀ window threshold,
        ((store.sliceByWindow? window).bind fun slice => slice.sliceByThreshold? threshold)
            = store.only? ⟨window, threshold⟩
          ∧ ((store.sliceByThreshold? threshold).bind fun slice => slice.sliceByWindow? window)
            = store.only? ⟨window, threshold⟩)
      ∧ ∀ first second, store.sliceByLead? first = store.sliceByLead? second ↔
        first.leadBounds = second.leadBounds
          ∨ first.leadBounds ∉ store.leadWindows ∧ second.leadBounds ∉ store.leadWindows := by
  have consistent := reachable.consistent
  refine ⟨⟨?_, fun window => sliceByWindow?_eq_none_iff⟩,
    ⟨?_, fun threshold => sliceByThreshold?_eq_none_iff⟩,
    ⟨?_, fun window => sliceByLead?_eq_none_iff⟩, fun window threshold => ⟨?_, ?_⟩,
    fun first second => sliceByLead?_congr_iff⟩
  · exact partitionedBy (fun _ => mem_windows_iff) consistent fun value _ => rfl
  · exact partitionedBy (fun _ => mem_thresholds_iff) consistent fun value _ => rfl
  · refine partitionedBy (fun _ => mem_leadWindows_iff) consistent fun value isValue => ?_
    obtain ⟨key, -, rfl⟩ := mem_leadWindows_iff.mp isValue
    exact sliceByLead?_eq key.window.leadBounds
  · exact sliceByWindow?_bind_sliceByThreshold? window threshold
  · exact sliceByThreshold?_bind_sliceByWindow? window threshold

/-- Outputs at three windows, two of which have the same leads, under metadata with a window. -/
def scattered : StoreBuilder .doubleScore :=
  let past : TimeWindow := { TimeWindow.unbounded with latestValid := Instant.earliest }
  let late : TimeWindow := { TimeWindow.unbounded with latestLead := ⟨Duration.second⟩ }
  let output (value : Binary64) : Output .doubleScore := ⟨value, { metric := .meanError }⟩
  (StoreBuilder.putAll {}
    [(⟨late, .allData⟩, output .zero), (⟨past, .allData⟩, output .nan),
      (⟨.unbounded, ⟨.less, some ⟨.one, none⟩, none, none⟩⟩, output .one)]).withMetadata
    { metric := .meanError, window := some late }

/-- The slices at the windows are combined in reverse, and one of the windows has no output at the
threshold of the others. -/
theorem Reachable.slices_partition_scattered :
    let past : TimeWindow := { TimeWindow.unbounded with latestValid := Instant.earliest }
    let late : TimeWindow := { TimeWindow.unbounded with latestLead := ⟨Duration.second⟩ }
    ∃ store, scattered.build = .ok store
      ∧ (∃ parts, List.Forall₂ (fun window part => store.sliceByWindow? window = some part)
          [late, .unbounded, past] parts ∧ Store.combine parts = .ok store)
      ∧ store.sliceByLead? past = store.sliceByLead? .unbounded
      ∧ ((store.sliceByThreshold? .allData).bind fun slice => slice.sliceByWindow? .unbounded)
        = none
      ∧ store.sliceByThreshold? ⟨.less, some ⟨.zero, none⟩, none, none⟩ = none := by
  intro past late
  have filled : scattered.Reachable := .withMetadata (.putAll .empty _) _
  obtain ⟨store, built⟩ : ∃ store, scattered.build = .ok store := ⟨_, rfl⟩
  obtain ⟨⟨windows, -⟩, ⟨-, noThreshold⟩, -, single, leads⟩ :=
    Reachable.slices_partition (.build filled built)
  cases built
  refine ⟨_, rfl, windows.restored _ (List.reverse_perm [past, .unbounded, late]), ?_, ?_, ?_⟩
  · exact (leads past .unbounded).mpr (.inl rfl)
  · rw [(single .unbounded .allData).2]
    rfl
  · exact (noThreshold _).mpr (by decide)

end Store

end Forecast
