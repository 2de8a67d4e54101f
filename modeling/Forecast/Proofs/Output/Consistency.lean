import Forecast.Proofs.Collection.Traversal
import Forecast.Proofs.Output.Store

/-!
# Consistency of stores

A store is reachable if it is built from what has been put into a builder, sliced from a reachable
store, or combined from reachable stores.  Slices are not checked again, and the reference of a
builder may stem from an output that has been replaced since.  All the same a reachable store has
outputs, all of them minimally equal to its metadata.
-/

namespace Forecast

variable {group : OutputGroup}

/-- Builders that are filled from nothing, whatever is put. -/
inductive StoreBuilder.Reachable : StoreBuilder group → Prop where
  | empty : Reachable {}
  | put {builder : StoreBuilder group} (before : Reachable builder) (key : CellKey)
      (output : Output group) : Reachable (builder.put key output)
  | withMetadata {builder : StoreBuilder group} (before : Reachable builder)
      (metadata : OutputMetadata) : Reachable (builder.withMetadata metadata)

/-- Stores that are built, sliced or combined. -/
inductive Store.Reachable : Store group → Prop where
  | build {builder : StoreBuilder group} {store : Store group} (filled : builder.Reachable)
      (built : builder.build = .ok store) : Reachable store
  | sliceByWindow {store slice : Store group} (before : Reachable store) (window : TimeWindow)
      (sliced : store.sliceByWindow? window = some slice) : Reachable slice
  | sliceByThreshold {store slice : Store group} (before : Reachable store)
      (threshold : Threshold) (sliced : store.sliceByThreshold? threshold = some slice) :
      Reachable slice
  | sliceByLead {store slice : Store group} (before : Reachable store) (window : TimeWindow)
      (sliced : store.sliceByLead? window = some slice) : Reachable slice
  | combine {stores : List (Store group)} {combined : Store group}
      (before : ∀ store ∈ stores, Reachable store)
      (accepted : Store.combine stores = .ok combined) : Reachable combined

/-! ## Builders -/

namespace StoreBuilder

/-- A builder has outputs as soon as it has a reference.  This stems from an output, in whose place
there may be another one by now. -/
theorem Reachable.occupied {builder : StoreBuilder group} (reachable : builder.Reachable)
    {reference : OutputMetadata} (isReference : builder.reference = some reference) :
    builder.entries.entries ≠ [] := by
  induction reachable with
  | empty => cases isReference
  | put _ key output _ => exact SortedMap.insert_ne_empty _ key output
  | withMetadata _ metadata ih => exact ih isReference

theorem Reachable.putAll {builder : StoreBuilder group} (reachable : builder.Reachable)
    (entries : List (CellKey × Output group)) : (builder.putAll entries).Reachable := by
  induction entries generalizing builder with
  | nil => exact reachable
  | cons entry rest ih => exact ih (reachable.put entry.1 entry.2)

end StoreBuilder

/-! ## Stores -/

namespace Store

/-- A store has outputs, and all of them are minimally equal to its metadata. -/
structure Consistent (store : Store group) : Prop where
  /-- There is an output. -/
  nonempty : store.entries.entries ≠ []
  /-- Outputs agree with the metadata of the store. -/
  agrees : ∀ entry ∈ store.entries.entries,
    entry.2.metadata.minimallyEqual store.metadata = true

theorem Consistent.of_build {builder : StoreBuilder group} {store : Store group}
    (filled : builder.Reachable) (built : builder.build = .ok store) : store.Consistent := by
  rw [StoreBuilder.build, mapError_eq_ok_iff, StoreBuilder.assemble_eq_ok_iff] at built
  obtain ⟨reference, isReference, agree, metadata, rfl⟩ := built
  refine ⟨filled.occupied isReference, fun entry member => ?_⟩
  exact OutputMetadata.minimallyEqual_of_common (agree entry member) metadata

/-- Nothing is left out where as many outputs are kept as there are. -/
theorem filter_eq_of_size_eq {keep : CellKey → Bool} {store : Store group}
    (whole : (store.entries.filter fun key _ => keep key).size = store.entries.size) :
    store.entries.filter (fun key _ => keep key) = store.entries :=
  SortedMap.entries_inj.mp (List.filter_sublist.eq_of_length whole)

theorem restrict?_eq {keep : CellKey → Bool} {store : Store group} :
    store.restrict? keep =
      if (store.entries.filter fun key _ => keep key).isEmpty then none
      else some ⟨store.entries.filter fun key _ => keep key, store.metadata⟩ := by
  rw [restrict?]
  refine if_congr Iff.rfl rfl ?_
  split
  · rename_i whole
    rw [filter_eq_of_size_eq whole]
  · rfl

theorem restrict?_eq_none_iff {keep : CellKey → Bool} {store : Store group} :
    store.restrict? keep = none ↔ ∀ key ∈ store.keys, keep key = false := by
  have empty : (store.entries.filter fun key _ => keep key).isEmpty = true ↔
      ∀ key ∈ store.keys, keep key = false := by
    simp [SortedMap.isEmpty, SortedMap.filter, keys, SortedMap.keys, List.filter_eq_nil_iff]
  rw [restrict?_eq, ← empty]
  split <;> simp_all

/-- A slice has the outputs at the cells that are kept, of which there is one. -/
theorem restrict?_eq_some_iff {keep : CellKey → Bool} {store slice : Store group} :
    store.restrict? keep = some slice ↔
      slice = ⟨store.entries.filter fun key _ => keep key, store.metadata⟩
        ∧ ∃ key ∈ store.keys, keep key = true := by
  have present : (∃ key ∈ store.keys, keep key = true) ↔ store.restrict? keep ≠ none := by
    simp [restrict?_eq_none_iff]
  rw [present, restrict?_eq]
  split <;> simp [eq_comm]

/-- A slice has some of the outputs of its store. -/
theorem Consistent.restrict? {store slice : Store group} (consistent : store.Consistent)
    {keep : CellKey → Bool} (sliced : store.restrict? keep = some slice) : slice.Consistent := by
  obtain ⟨rfl, key, isKey, kept⟩ := restrict?_eq_some_iff.mp sliced
  obtain ⟨output, isEntry⟩ := SortedMap.mem_keys_iff.mp isKey
  refine ⟨?_, fun entry member => ?_⟩
  · exact List.ne_nil_of_mem (List.mem_filter.mpr ⟨isEntry, kept⟩)
  · exact consistent.agrees entry (List.mem_of_mem_filter member)

/-- There is a first output, and it agrees with the metadata of the store. -/
theorem Consistent.exists_first {store : Store group} (consistent : store.Consistent) :
    ∃ entry, store.entries.entries.head? = some entry
      ∧ entry.2.metadata.minimallyEqual store.metadata = true := by
  obtain ⟨entry, rest, split⟩ := List.exists_cons_of_ne_nil consistent.nonempty
  rw [split]
  exact ⟨entry, rfl, consistent.agrees entry (split ▸ List.mem_cons_self)⟩

/-- Combining checks the outputs of all stores anew, so it does not matter where they are from. -/
theorem Consistent.of_combine {stores : List (Store group)} {combined : Store group}
    (accepted : combine stores = .ok combined) : combined.Consistent := by
  cases stores with
  | nil => cases accepted
  | cons first rest =>
    have filled : StoreBuilder.Reachable
        ({ metadata := some (combinedMetadata first rest) } : StoreBuilder group) :=
      .withMetadata .empty _
    exact .of_build (filled.putAll _) accepted

theorem Reachable.consistent {store : Store group} (reachable : store.Reachable) :
    store.Consistent := by
  induction reachable with
  | build filled built => exact .of_build filled built
  | sliceByWindow _ _ sliced ih => exact ih.restrict? sliced
  | sliceByThreshold _ _ sliced ih => exact ih.restrict? sliced
  | sliceByLead _ _ sliced ih => exact ih.restrict? sliced
  | combine _ accepted => exact .of_combine accepted

/-- However often stores are sliced and combined, there are outputs, all minimally equal to the
metadata of the store and so to each other; and the cells ascend, each with the one output that is
found at it. -/
theorem Reachable.consistency {store : Store group} (reachable : store.Reachable) :
    0 < store.entries.size
      ∧ (∀ entry ∈ store.entries.entries,
        entry.2.metadata.minimallyEqual store.metadata = true)
      ∧ (∀ first ∈ store.entries.entries, ∀ second ∈ store.entries.entries,
        first.2.metadata.metric = second.2.metadata.metric
          ∧ first.2.metadata.component = second.2.metadata.component
          ∧ first.2.metadata.unit = second.2.metadata.unit
          ∧ first.2.metadata.inputUnit = second.2.metadata.inputUnit)
      ∧ StrictlyAscending store.keys
      ∧ store.keys = store.entries.entries.map Prod.fst
      ∧ store.entries.size = store.keys.length
      ∧ ∀ key output, store.get? key = some output ↔ (key, output) ∈ store.entries.entries := by
  have consistent := reachable.consistent
  refine ⟨List.length_pos_iff.mpr consistent.nonempty, consistent.agrees, ?_,
    store.entries.ascending, rfl, by simp [SortedMap.size, keys, SortedMap.keys],
    fun _ _ => SortedMap.get?_eq_some_iff⟩
  intro first isFirst second isSecond
  rw [← OutputMetadata.minimallyEqual_iff]
  exact OutputMetadata.minimallyEqual_of_common (consistent.agrees first isFirst)
    (consistent.agrees second isSecond)

/-- A builder whose reference stems from an output that has been replaced. -/
def replacedReference : StoreBuilder .doubleScore :=
  let window : TimeWindow := { TimeWindow.unbounded with latestLead := ⟨Duration.second⟩ }
  ((((StoreBuilder.put {} ⟨.unbounded, .allData⟩ ⟨Binary64.zero, { metric := .meanError }⟩).put
      ⟨.unbounded, .allData⟩ ⟨Binary64.one, { metric := .meanError, sampleSize := 2 }⟩).put
      ⟨window, .allData⟩ ⟨Binary64.nan, { metric := .meanError, sampleSize := 3 }⟩).withMetadata
      { metric := .meanError, window := some window })

theorem Reachable.consistency_recombined :
    ∃ store slice combined, replacedReference.build = .ok store
      ∧ store.sliceByThreshold? .allData = some store
      ∧ store.sliceByWindow? .unbounded = some slice
      ∧ Store.combine [slice, store] = .ok combined
      ∧ combined.entries.size = 2
      ∧ ∀ entry ∈ combined.entries.entries,
        entry.2.metadata.minimallyEqual combined.metadata = true := by
  have filled : replacedReference.Reachable :=
    .withMetadata (.put (.put (.put .empty _ _) _ _) _ _) _
  refine ⟨_, _, _, rfl, rfl, rfl, rfl, rfl, ?_⟩
  have built : Reachable _ := .build filled rfl
  have each : ∀ given ∈ [_, _], Reachable given :=
    List.forall_mem_cons.mpr ⟨.sliceByWindow built .unbounded rfl, by simpa using built⟩
  have combined : Reachable _ := .combine each rfl
  exact (Reachable.consistency combined).2.1

end Store

end Forecast
