import Forecast.Proofs.Output.Comparison

/-!
# Calls of a store builder

Outputs may be put and metadata given in any order.  The first output that is put is the reference
for all that are still there when the store is built, and for the metadata given last; it stays so
after it has been replaced.  The calls therefore matter only for which output is first, which is
last at each cell, and which metadata are given last.
-/

namespace Forecast

variable {group : OutputGroup}

/-- What the builder of a store is told. -/
inductive StoreCall (group : OutputGroup) where
  | put (key : CellKey) (output : Output group)
  | withMetadata (metadata : OutputMetadata)

namespace StoreCall

/-- The output that is put, with its cell. -/
def put? : StoreCall group → Option (CellKey × Output group)
  | put key output => some (key, output)
  | withMetadata _ => none

/-- The metadata that are given. -/
def metadata? : StoreCall group → Option OutputMetadata
  | put _ _ => none
  | withMetadata metadata => some metadata

/-- The outputs that are put, in order. -/
def puts (calls : List (StoreCall group)) : List (CellKey × Output group) := calls.filterMap put?

/-- The metadata that count, which are those given last. -/
def given? (calls : List (StoreCall group)) : Option OutputMetadata :=
  (calls.filterMap metadata?).getLast?

/-- An output that is still there is not minimally equal to the first one that was put. -/
def Differs (calls : List (StoreCall group)) (first : Output group) (key : CellKey) : Prop :=
  ∃ output, LastPut (puts calls) key output
    ∧ output.metadata.minimallyEqual first.metadata = false

/-- All outputs that are still there are minimally equal to the first one that was put. -/
def Agree (calls : List (StoreCall group)) (first : Output group) : Prop :=
  ∀ key output, LastPut (puts calls) key output →
    output.metadata.minimallyEqual first.metadata = true

/-- What a store is built to after calls. -/
inductive Determine (calls : List (StoreCall group)) : Except DataError (Store group) → Prop where
  | nothing (noPut : puts calls = []) : Determine calls (.error (.empty .entries))
  /-- The least cell is named that differs from the output put first. -/
  | differs {firstKey key : CellKey} {first output : Output group}
      (isFirst : (puts calls).head? = some (firstKey, first))
      (least : Least (Differs calls first) key) (last : LastPut (puts calls) key output) :
      Determine calls (.error (.metadataMismatch (.entry key output.metadata first.metadata)))
  /-- The metadata given last differ from those of the output put first. -/
  | replacement {firstKey : CellKey} {first : Output group}
      (isFirst : (puts calls).head? = some (firstKey, first)) (agree : Agree calls first)
      {metadata : OutputMetadata} (given : given? calls = some metadata)
      (differs : metadata.minimallyEqual first.metadata = false) :
      Determine calls (.error (.metadataMismatch (.replacement metadata first.metadata)))
  | stored {firstKey : CellKey} {first : Output group}
      (isFirst : (puts calls).head? = some (firstKey, first)) (agree : Agree calls first)
      (givenAgree : ∀ metadata, given? calls = some metadata →
        metadata.minimallyEqual first.metadata = true)
      {store : Store group}
      (entries : ∀ key output, (key, output) ∈ store.entries.entries ↔
        LastPut (puts calls) key output)
      (metadata : store.metadata = (given? calls).getD first.metadata) :
      Determine calls (.ok store)

end StoreCall

namespace StoreBuilder

open StoreCall

/-- Follow a call. -/
def call (builder : StoreBuilder group) : StoreCall group → StoreBuilder group
  | .put key output => builder.put key output
  | .withMetadata metadata => builder.withMetadata metadata

/-- The builder that has followed calls in order. -/
def ofCalls (calls : List (StoreCall group)) : StoreBuilder group := calls.foldl call {}

/-- Outputs and metadata do not interfere. -/
theorem ofCalls_eq (calls : List (StoreCall group)) :
    ofCalls calls = { putAll {} (puts calls) with metadata := given? calls } := by
  induction calls using List.reverseRecOn with
  | nil => rfl
  | append_singleton calls last ih =>
    rw [ofCalls, List.foldl_append, ← ofCalls, ih, puts, puts, given?, given?,
      List.filterMap_append, List.filterMap_append]
    cases last with
    | put key output => simp [call, put?, metadata?, putAll, put]
    | withMetadata metadata => simp [call, List.filterMap_cons, put?, metadata?, withMetadata]

section

variable {calls : List (StoreCall group)}

theorem reference_ofCalls :
    (ofCalls calls).reference = (puts calls).head?.map fun first => first.2.metadata := by
  rw [ofCalls_eq, putAll_eq, Option.none_or]

theorem metadata_ofCalls : (ofCalls calls).metadata = given? calls := by
  rw [ofCalls_eq]

theorem mem_entries_ofCalls_iff {key : CellKey} {output : Output group} :
    (key, output) ∈ (ofCalls calls).entries.entries ↔ LastPut (puts calls) key output := by
  rw [← SortedMap.get?_eq_some_iff, ofCalls_eq]
  exact get?_putAll_eq_some_iff

theorem foreign_ofCalls (first : Output group) :
    Foreign first.metadata (ofCalls calls).entries = Differs calls first := by
  funext key
  simp only [Foreign, Differs, mem_entries_ofCalls_iff]

theorem agree_iff {first : Output group} :
    Agree calls first ↔ ∀ entry ∈ (ofCalls calls).entries.entries,
      entry.2.metadata.minimallyEqual first.metadata = true := by
  simp only [Agree, Prod.forall, mem_entries_ofCalls_iff]

/-- What calls determine is what is built. -/
theorem assemble_of_determine {outcome : Except DataError (Store group)}
    (determine : Determine calls outcome) : (ofCalls calls).assemble = outcome := by
  have reference {firstKey : CellKey} {first : Output group}
      (isFirst : (puts calls).head? = some (firstKey, first)) :
      (ofCalls calls).reference = some first.metadata := by
    rw [reference_ofCalls, isFirst]
    rfl
  cases determine with
  | nothing noPut =>
    have noReference : (ofCalls calls).reference = none := by
      rw [reference_ofCalls, noPut]
      rfl
    rw [assemble, noReference]
    rfl
  | differs isFirst least last =>
    rw [← foreign_ofCalls] at least
    exact assemble_of_foreign (reference isFirst) least
      (mem_entries_ofCalls_iff.mpr last)
  | replacement isFirst agree given differs =>
    exact assemble_of_replacement (reference isFirst) (agree_iff.mp agree)
      (metadata_ofCalls.trans given) differs
  | @stored _ first isFirst agree givenAgree store entries metadata =>
    have sameEntries : store.entries = (ofCalls calls).entries := by
      refine SortedMap.ext_get? fun key => Option.ext fun output => ?_
      rw [SortedMap.get?_eq_some_iff, SortedMap.get?_eq_some_iff, entries, mem_entries_ofCalls_iff]
    rw [assemble_eq_ok_iff]
    refine ⟨first.metadata, reference isFirst, agree_iff.mp agree, ?_, ?_⟩
    · rw [metadata]
      cases given : given? calls with
      | none => exact first.metadata.minimallyEqual_refl
      | some metadata => exact givenAgree metadata given
    · rw [← sameEntries, metadata_ofCalls, ← metadata]

variable (calls)

/-- Calls determine something. -/
theorem exists_determine : ∃ outcome, Determine calls outcome := by
  cases isFirst : (puts calls).head? with
  | none => exact ⟨_, .nothing (List.head?_eq_none_iff.mp isFirst)⟩
  | some first =>
    obtain ⟨firstKey, first⟩ := first
    cases named : foreign? first.metadata (ofCalls calls).entries with
    | some entry =>
      obtain ⟨least, member⟩ := foreign?_eq_some_iff.mp named
      rw [foreign_ofCalls] at least
      exact ⟨_, .differs isFirst least (mem_entries_ofCalls_iff.mp member)⟩
    | none =>
      have agree : Agree calls first := agree_iff.mpr (foreign?_eq_none_iff.mp named)
      by_cases differs : ∃ metadata, given? calls = some metadata
          ∧ metadata.minimallyEqual first.metadata = false
      · obtain ⟨metadata, given, differs⟩ := differs
        exact ⟨_, .replacement isFirst agree given differs⟩
      · have givenAgree (metadata : OutputMetadata) (given : given? calls = some metadata) :
            metadata.minimallyEqual first.metadata = true := by
          rw [← Bool.not_eq_false]
          exact fun isFalse => differs ⟨metadata, given, isFalse⟩
        let store : Store group := ⟨(ofCalls calls).entries, (given? calls).getD first.metadata⟩
        exact ⟨.ok store,
          .stored isFirst agree givenAgree (fun _ _ => mem_entries_ofCalls_iff) rfl⟩

variable {calls}

theorem determine_iff {outcome : Except DataError (Store group)} :
    Determine calls outcome ↔ (ofCalls calls).assemble = outcome := by
  constructor
  · exact assemble_of_determine
  · rintro rfl
    obtain ⟨outcome, determine⟩ := exists_determine calls
    rwa [assemble_of_determine determine]

end

/-! ## Order of calls -/

/-- Calls come to the same if they agree in the first put, in the puts at every cell, and in the
metadata given last. -/
theorem build_congr {calls others : List (StoreCall group)}
    (first : (puts others).head? = (puts calls).head?)
    (same : ∀ key, under (puts others) key = under (puts calls) key)
    (last : given? others = given? calls) : (ofCalls others).build = (ofCalls calls).build := by
  have entries : (ofCalls others).entries = (ofCalls calls).entries := by
    refine SortedMap.ext_get? fun key => Option.ext fun output => ?_
    rw [SortedMap.get?_eq_some_iff, SortedMap.get?_eq_some_iff, mem_entries_ofCalls_iff,
      mem_entries_ofCalls_iff, lastPut_iff, lastPut_iff, ← getLast?_under, ← getLast?_under, same]
  rw [build, build, assemble, assemble, entries, reference_ofCalls, reference_ofCalls, first,
    metadata_ofCalls, metadata_ofCalls, last]

/-- Calls determine one result, which is what is built.  A store is refused for lack of outputs,
or for the least cell where the output put last differs from the one put first of all, or else for
the metadata given last.  Otherwise it has the outputs that were put last, under the metadata
given last, or those of the output put first if none are given.  Calls come to the same if they
agree in the output put first, in the puts at each cell, and in the metadata given last. -/
theorem calls_determine (calls : List (StoreCall group)) :
    (∃ outcome, (ofCalls calls).build = outcome.mapError .invalidInput
        ∧ ∀ other, Determine calls other ↔ other = outcome)
      ∧ ∀ others, (puts others).head? = (puts calls).head? →
        (∀ key, under (puts others) key = under (puts calls) key) →
        given? others = given? calls → (ofCalls others).build = (ofCalls calls).build := by
  refine ⟨⟨(ofCalls calls).assemble, rfl, fun other => ?_⟩, fun others => build_congr⟩
  rw [determine_iff, eq_comm]

/-- An output and metadata of another metric do no harm once they have been replaced, and calls at
other cells may be made in between. -/
theorem calls_determine_replaced :
    let window : TimeWindow := { TimeWindow.unbounded with latestLead := ⟨Duration.second⟩ }
    let early : CellKey := ⟨.unbounded, .allData⟩
    let late : CellKey := ⟨window, .allData⟩
    let output (metric : Metric) (value : Binary64) : Output .doubleScore := ⟨value, { metric }⟩
    let wrong : StoreCall .doubleScore := .withMetadata { metric := .biasFraction }
    let right : StoreCall .doubleScore := .withMetadata { metric := .meanError, window }
    let calls := [wrong, .put late (output .meanError .zero),
      .put early (output .biasFraction .one), .put late (output .meanError .one),
      .put early (output .meanError .nan), right]
    let others := [.put late (output .meanError .zero), wrong, .put late (output .meanError .one),
      .put early (output .biasFraction .one), right, .put early (output .meanError .nan)]
    let store : Store .doubleScore :=
      ⟨.ofList [(early, output .meanError .nan), (late, output .meanError .one)],
        { metric := .meanError, window }⟩
    (ofCalls calls).build = .ok store ∧ Determine calls (.ok store)
      ∧ (ofCalls others).build = .ok store := by
  intro window early late output wrong right calls others store
  obtain ⟨⟨outcome, built, determined⟩, congr⟩ := calls_determine calls
  have accepted : (ofCalls calls).build = .ok store := rfl
  have isOutcome : outcome = .ok store :=
    (mapError_eq_ok_iff _).mp (built.symm.trans accepted)
  have putsCalls : puts calls = [(late, output .meanError .zero),
    (early, output .biasFraction .one), (late, output .meanError .one),
    (early, output .meanError .nan)] := rfl
  have putsOthers : puts others = [(late, output .meanError .zero),
    (late, output .meanError .one), (early, output .biasFraction .one),
    (early, output .meanError .nan)] := rfl
  have sameUnder (key : CellKey) : under (puts others) key = under (puts calls) key := by
    by_cases isEarly : early = key
    · subst isEarly
      rfl
    · by_cases isLate : late = key
      · subst isLate
        rfl
      · simp [putsCalls, putsOthers, under_cons, isEarly, isLate]
  refine ⟨accepted, (determined _).mpr isOutcome.symm, ?_⟩
  rw [congr others rfl sameUnder rfl, accepted]

end StoreBuilder

end Forecast
