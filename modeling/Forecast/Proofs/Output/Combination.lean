import Forecast.Proofs.Output.Consistency
import Forecast.Proofs.Sample.Union

/-!
# Combination of stores

Combined stores have the outputs of all, the last store with an output at a cell counting, and the
metadata of the first with the union of the windows of all.  Stores are combined just when the
outputs that count agree with the metadata of the first, whichever output sets the reference.  So
some of them may be combined before the others, and parts of a store that have all its outputs are
combined to it again, as the store itself is.
-/

namespace Forecast

variable {group : OutputGroup}

theorem OutputMetadata.minimallyEqual_comm (left right : OutputMetadata) :
    left.minimallyEqual right = right.minimallyEqual left := by
  rw [Bool.eq_iff_iff, minimallyEqual_iff, minimallyEqual_iff, eq_comm, eq_comm (b := right.unit),
    eq_comm (b := right.component), eq_comm (b := right.inputUnit)]

/-- Metadata agree alike with those that agree with each other. -/
theorem OutputMetadata.minimallyEqual_congr {left right : OutputMetadata}
    (same : left.minimallyEqual right = true) (other : OutputMetadata) :
    other.minimallyEqual left = other.minimallyEqual right := by
  obtain ⟨metric, component, unit, inputUnit⟩ := minimallyEqual_iff.mp same
  rw [minimallyEqual, minimallyEqual, metric, component, unit, inputUnit]

namespace Store

/-- The outputs of stores, each put in place of those of earlier stores at its cell. -/
def united (stores : List (Store group)) : SortedMap CellKey (Output group) :=
  SortedMap.ofList (stores.flatMap fun store => store.entries.entries)

/-- The windows that are present in the metadata of stores. -/
def metadataWindows (stores : List (Store group)) : List TimeWindow :=
  stores.filterMap fun store => store.metadata.window

/-- The output that the last store with an output at the cell has there. -/
def LastHeld (stores : List (Store group)) (key : CellKey) (output : Output group) : Prop :=
  ∃ before store after, stores = before ++ store :: after ∧ (key, output) ∈ store.entries.entries
    ∧ ∀ later ∈ after, key ∉ later.keys

/-! ## Outputs -/

theorem get?_united (stores : List (Store group)) (key : CellKey) :
    (united stores).get? key = stores.reverse.findSome? fun store => store.get? key := by
  have held := SortedMap.empty.get?_insertAll_flatMap (stores.map Store.entries) key
  rw [SortedMap.get?_empty, Option.or_none, List.flatMap_map, ← List.map_reverse,
    List.findSome?_map] at held
  exact held

/-- The united outputs are those of the last stores that have any at their cells. -/
theorem mem_united_iff {stores : List (Store group)} {key : CellKey} {output : Output group} :
    (key, output) ∈ (united stores).entries ↔ LastHeld stores key output := by
  have held {store : Store group} :
      store.get? key = some output ↔ (key, output) ∈ store.entries.entries :=
    SortedMap.get?_eq_some_iff
  have missing {store : Store group} : store.get? key = none ↔ key ∉ store.keys := by
    rw [← Option.not_isSome_iff_eq_none]
    exact not_congr SortedMap.isSome_get?_iff
  rw [← SortedMap.get?_eq_some_iff, get?_united, List.findSome?_eq_some_iff]
  constructor
  · rintro ⟨after, store, before, reversed, found, last⟩
    have split : stores = before.reverse ++ store :: after.reverse := by
      rw [← List.reverse_reverse stores, reversed, List.reverse_append, List.reverse_cons,
        List.append_assoc, List.singleton_append]
    refine ⟨_, store, _, split, held.mp found, fun later member => ?_⟩
    exact missing.mp (last later (List.mem_reverse.mp member))
  · rintro ⟨before, store, after, rfl, isHeld, last⟩
    refine ⟨after.reverse, store, before.reverse, by simp, held.mpr isHeld, ?_⟩
    exact fun later member => missing.mpr (last later (List.mem_reverse.mp member))

/-- Outputs that were united before are put in place of others as they would be at once. -/
theorem united_append (front back : List (Store group)) {joined : Store group}
    (entries : joined.entries = united front) :
    united (joined :: back) = united (front ++ back) := by
  have again : SortedMap.empty.insertAll joined.entries.entries = united front := by
    rw [entries]
    exact (united front).ofList_entries
  rw [united, SortedMap.ofList, List.flatMap_cons, SortedMap.insertAll_append, again, united,
    united, SortedMap.ofList, SortedMap.ofList, ← SortedMap.insertAll_append,
    List.flatMap_append]

/-! ## Metadata -/

theorem window_eq_none_of_joinedWindow {first : Store group} {rest : List (Store group)}
    (nothing : SampleMetadata.joinedWindow (metadataWindows (first :: rest)) = none) :
    first.metadata.window = none := by
  rw [SampleMetadata.joinedWindow_eq_none_iff] at nothing
  exact List.filterMap_eq_nil_iff.mp nothing first List.mem_cons_self

/-- Combined metadata have the windows of all stores joined, if there are any. -/
theorem combinedMetadata_eq (first : Store group) (rest : List (Store group)) :
    combinedMetadata first rest =
      { first.metadata with
        window := SampleMetadata.joinedWindow (metadataWindows (first :: rest)) } := by
  rw [combinedMetadata]
  cases united : TimeWindow.union
      ((first :: rest).filterMap fun store => store.metadata.window) with
  | ok window =>
    rw [SampleMetadata.joinedWindow, metadataWindows, united]
    rfl
  | error =>
    have nothing : SampleMetadata.joinedWindow (metadataWindows (first :: rest)) = none := by
      rw [SampleMetadata.joinedWindow, metadataWindows, united]
      rfl
    rw [nothing, ← window_eq_none_of_joinedWindow nothing]

theorem minimallyEqual_combinedMetadata (first : Store group) (rest : List (Store group)) :
    (combinedMetadata first rest).minimallyEqual first.metadata = true := by
  rw [combinedMetadata_eq]
  exact first.metadata.minimallyEqual_refl

theorem metadataWindows_cons (first : Store group) (rest : List (Store group)) :
    metadataWindows (first :: rest) = first.metadata.window.toList ++ metadataWindows rest := by
  rw [metadataWindows, List.filterMap_cons]
  cases first.metadata.window <;> rfl

/-- The windows of stores may be joined before those of others. -/
theorem combinedMetadata_append (first : Store group) (rest back : List (Store group))
    {joined : Store group} (metadata : joined.metadata = combinedMetadata first rest) :
    combinedMetadata joined back = combinedMetadata first (rest ++ back) := by
  have windows : SampleMetadata.joinedWindow (metadataWindows (joined :: back))
      = SampleMetadata.joinedWindow (metadataWindows (first :: (rest ++ back))) := by
    rw [metadataWindows_cons, metadata, combinedMetadata_eq, SampleMetadata.joinedWindow_append,
      ← List.cons_append, metadataWindows, metadataWindows, metadataWindows, List.filterMap_append]
  rw [combinedMetadata_eq, windows, metadata, combinedMetadata_eq, combinedMetadata_eq]

/-! ## Combination -/

/-- The first output sets the reference for the united ones, and for the combined metadata. -/
theorem combine_eq_build {first : Store group} {entry : CellKey × Output group}
    (isFirst : first.entries.entries.head? = some entry) (rest : List (Store group)) :
    combine (first :: rest)
      = StoreBuilder.build
        { entries := united (first :: rest)
          reference := some entry.2.metadata
          metadata := some (combinedMetadata first rest) } := by
  have head : ((first :: rest).flatMap fun store => store.entries.entries).head? = some entry := by
    rw [List.flatMap_cons, List.head?_append, isFirst]
    rfl
  rw [combine, StoreBuilder.putAll_eq, head, ← SortedMap.ofList, ← united]
  rfl

/-- When stores are combined, and into what. -/
theorem combine_eq_ok_iff {first : Store group} (consistent : first.Consistent)
    {rest : List (Store group)} {combined : Store group} :
    combine (first :: rest) = .ok combined ↔
      (∀ entry ∈ (united (first :: rest)).entries,
        entry.2.metadata.minimallyEqual first.metadata = true)
        ∧ combined = ⟨united (first :: rest), combinedMetadata first rest⟩ := by
  obtain ⟨entry, isFirst, agrees⟩ := consistent.exists_first
  rw [combine_eq_build isFirst, StoreBuilder.build, mapError_eq_ok_iff,
    StoreBuilder.assemble_eq_ok_iff]
  -- The reference agrees with the metadata of the first store.
  simp only [Option.some.injEq, exists_eq_left', Option.getD_some,
    OutputMetadata.minimallyEqual_congr agrees]
  refine and_congr_right fun _ => ⟨And.right, ?_⟩
  rintro rfl
  exact ⟨minimallyEqual_combinedMetadata first rest, rfl⟩

/-- Stores are combined if the outputs that count agree with the first of them. -/
theorem exists_combine_iff {first : Store group} {rest : List (Store group)}
    (consistent : first.Consistent) :
    (∃ combined, combine (first :: rest) = .ok combined) ↔
      ∀ key output, LastHeld (first :: rest) key output →
        output.metadata.minimallyEqual first.metadata = true := by
  simp only [combine_eq_ok_iff consistent, exists_and_left, exists_eq, and_true, Prod.forall,
    mem_united_iff]

/-- Stores may be combined with others after they have been combined with each other. -/
theorem combine_append {first joined : Store group} (consistent : first.Consistent)
    {rest : List (Store group)} (joins : combine (first :: rest) = .ok joined)
    (back : List (Store group)) {store : Store group} :
    combine (joined :: back) = .ok store ↔ combine (first :: rest ++ back) = .ok store := by
  have joinedConsistent : joined.Consistent := .of_combine joins
  obtain ⟨-, rfl⟩ := (combine_eq_ok_iff consistent).mp joins
  have same := minimallyEqual_combinedMetadata first rest
  rw [combine_eq_ok_iff joinedConsistent, List.cons_append, combine_eq_ok_iff consistent,
    united_append (first :: rest) back rfl, combinedMetadata_append first rest back rfl]
  simp only [OutputMetadata.minimallyEqual_congr same, List.cons_append]

section

variable {store : Store group} {parts : List (Store group)}
  (together : ∀ entry, entry ∈ store.entries.entries ↔
    ∃ part ∈ parts, entry ∈ part.entries.entries)

include together

/-- Parts with the outputs of a store have none at a cell but that of the store. -/
theorem united_eq_of_parts : united parts = store.entries := by
  have within {key : CellKey} {output : Output group}
      (isUnited : (key, output) ∈ (united parts).entries) :
      (key, output) ∈ store.entries.entries := by
    obtain ⟨before, part, after, split, isHeld, -⟩ := mem_united_iff.mp isUnited
    exact (together (key, output)).mpr ⟨part, by simp [split], isHeld⟩
  refine SortedMap.ext_get? fun key => Option.ext fun output => ?_
  rw [SortedMap.get?_eq_some_iff, SortedMap.get?_eq_some_iff]
  refine ⟨within, fun isEntry => ?_⟩
  obtain ⟨part, member, isHeld⟩ := (together (key, output)).mp isEntry
  have isKey : key ∈ part.keys := SortedMap.mem_keys_iff.mpr ⟨output, isHeld⟩
  have present : ((united parts).get? key).isSome := by
    rw [get?_united, List.findSome?_isSome_iff]
    exact ⟨part, List.mem_reverse.mpr member, SortedMap.isSome_get?_iff.mpr isKey⟩
  obtain ⟨other, found⟩ := Option.isSome_iff_exists.mp present
  have isUnited : (key, other) ∈ (united parts).entries := SortedMap.get?_eq_some_iff.mp found
  rwa [SortedMap.eq_of_mem isEntry (within isUnited)]

/-- Parts that have the outputs of a store and its metadata are combined to it, in any order. -/
theorem combine_eq_of_parts (consistent : store.Consistent)
    (each : ∀ part ∈ parts, part.Consistent)
    (metadata : ∀ part ∈ parts, part.metadata = store.metadata) : combine parts = .ok store := by
  obtain ⟨entry, isEntry⟩ := List.exists_mem_of_ne_nil _ consistent.nonempty
  obtain ⟨part, isPart, -⟩ := (together entry).mp isEntry
  obtain ⟨first, rest, rfl⟩ := List.exists_cons_of_ne_nil (List.ne_nil_of_mem isPart)
  have isFirst : first.metadata = store.metadata := metadata first List.mem_cons_self
  have windows : ∀ part ∈ first :: rest, part.metadata.window = first.metadata.window := by
    intro part member
    rw [metadata part member, isFirst]
  have joined : combinedMetadata first rest = store.metadata := by
    rw [combinedMetadata_eq, metadataWindows,
      SampleMetadata.joinedWindow_filterMap List.mem_cons_self windows, isFirst]
  rw [combine_eq_ok_iff (each first List.mem_cons_self), isFirst, joined,
    united_eq_of_parts together]
  exact ⟨consistent.agrees, rfl⟩

end

/-- A store combined with itself stays as it is. -/
theorem combine_replicate {store : Store group} (consistent : store.Consistent) (count : Nat) :
    combine (List.replicate (count + 1) store) = .ok store := by
  have only {part : Store group} (member : part ∈ List.replicate (count + 1) store) :
      part = store :=
    List.eq_of_mem_replicate member
  have isPart : store ∈ List.replicate (count + 1) store := by simp
  refine combine_eq_of_parts (fun entry => ⟨fun isEntry => ⟨store, isPart, isEntry⟩, ?_⟩)
    consistent (fun part member => only member ▸ consistent) (fun part member => only member ▸ rfl)
  rintro ⟨part, member, isEntry⟩
  exact only member ▸ isEntry

end Store

/-- Metadata with the union of windows in place of their own, or as they are if there are none. -/
inductive OutputMetadata.Widened (metadata : OutputMetadata) :
    List TimeWindow → OutputMetadata → Prop where
  | unchanged : Widened metadata [] metadata
  | widened {windows : List TimeWindow} {union : TimeWindow} (present : windows ≠ [])
      (isUnion : union.IsUnion windows) :
      Widened metadata windows { metadata with window := some union }

namespace Store

theorem widened_combinedMetadata (first : Store group) (rest : List (Store group)) :
    first.metadata.Widened (metadataWindows (first :: rest)) (combinedMetadata first rest) := by
  rw [combinedMetadata_eq]
  cases joined : SampleMetadata.joinedWindow (metadataWindows (first :: rest)) with
  | none =>
    rw [SampleMetadata.joinedWindow_eq_none_iff.mp joined, ← window_eq_none_of_joinedWindow joined]
    exact .unchanged
  | some union =>
    obtain ⟨present, isUnion⟩ := SampleMetadata.joinedWindow_eq_some_iff.mp joined
    exact .widened present isUnion

/-- Combining is an associative union in which later stores count.  Stores are combined just when
the outputs that the last stores with an output at a cell have there agree with the metadata of
the first store.  The result has these outputs, and the metadata of the first with the union of
the windows that are present.  Two stores may be combined before a third, and a store combined
with itself, or alone, stays as it is. -/
theorem combination_laws :
    (∀ (first : Store group) (rest : List (Store group)),
        (∀ store ∈ first :: rest, store.Reachable) →
        ((∃ combined, combine (first :: rest) = .ok combined) ↔
            ∀ key output, LastHeld (first :: rest) key output →
              output.metadata.minimallyEqual first.metadata = true)
          ∧ ∀ combined, combine (first :: rest) = .ok combined →
            StrictlyAscending combined.keys
              ∧ (∀ key output, (key, output) ∈ combined.entries.entries ↔
                LastHeld (first :: rest) key output)
              ∧ first.metadata.Widened (metadataWindows (first :: rest)) combined.metadata)
      ∧ (∀ first second third joined : Store group,
        first.Reachable → combine [first, second] = .ok joined →
        ∀ store, combine [joined, third] = .ok store ↔ combine [first, second, third] = .ok store)
      ∧ ∀ store : Store group, store.Reachable →
        combine [store] = .ok store ∧ combine [store, store] = .ok store := by
  refine ⟨?_, ?_, ?_⟩
  · intro first rest reachable
    have consistent : first.Consistent := (reachable first List.mem_cons_self).consistent
    refine ⟨exists_combine_iff consistent, fun combined accepted => ?_⟩
    obtain ⟨-, rfl⟩ := (combine_eq_ok_iff consistent).mp accepted
    exact ⟨(united (first :: rest)).ascending, fun _ _ => mem_united_iff,
      widened_combinedMetadata first rest⟩
  · intro first second third joined reachable joins store
    exact combine_append reachable.consistent joins [third]
  · intro store reachable
    exact ⟨combine_replicate reachable.consistent 0, combine_replicate reachable.consistent 1⟩

/-- A store of one output, always at the same cell, under metadata that may have a window. -/
def single (value : Binary64) (window : Option TimeWindow) : Store .doubleScore :=
  let metadata : OutputMetadata := { metric := .meanError, window }
  ⟨.ofList [(⟨.unbounded, .allData⟩, ⟨value, metadata⟩)], metadata⟩

theorem single_reachable (value : Binary64) (window : Option TimeWindow) :
    (single value window).Reachable :=
  .build (.put .empty ⟨.unbounded, .allData⟩ ⟨value, { metric := .meanError, window }⟩) rfl

/-- Outputs are replaced in turn, and the window of the second store is kept. -/
theorem combination_laws_replaced :
    let stores := [single .zero none, single .nan (some .unbounded), single .one none]
    let combined : Store .doubleScore :=
      ⟨(single .one none).entries, (single .zero (some .unbounded)).metadata⟩
    ∃ joined, combine (stores.take 2) = .ok joined
      ∧ combine [joined, single .one none] = .ok combined
      ∧ LastHeld stores ⟨.unbounded, .allData⟩ ⟨.one, { metric := .meanError }⟩
      ∧ (single .zero none).metadata.Widened [.unbounded] combined.metadata
      ∧ combine [combined, combined] = .ok combined := by
  intro stores combined
  obtain ⟨united, nested, repeated⟩ := @combination_laws .doubleScore
  have reachable : ∀ store ∈ stores, store.Reachable := by
    simp only [stores, List.forall_mem_cons, single_reachable, true_and]
    exact fun _ missing => absurd missing List.not_mem_nil
  have accepted : combine stores = .ok combined := rfl
  obtain ⟨-, outputs, metadata⟩ := (united _ _ reachable).2 combined accepted
  refine ⟨_, rfl, ?_, ?_, metadata, ?_⟩
  · exact (nested _ _ _ _ (single_reachable _ _) rfl combined).mpr accepted
  · exact (outputs _ _).mp List.mem_cons_self
  · exact (repeated combined (.combine reachable accepted)).2

end Store

end Forecast
