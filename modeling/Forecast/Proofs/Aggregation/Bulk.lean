import Forecast.Proofs.Aggregation.Filing

/-!
# Aggregation and bulk insertion

A project merges the results of each cell and puts the merged cells together in their order; a
builder takes the same cells one after the other.  Either way the output of a metric that counts in
a cell is the one filed there last.  The references differ: a builder compares all outputs with the
one filed first under the metric, though it may have been replaced, and a project compares those
that count with each other.  So a project accepts whatever a builder accepts.
-/

namespace Forecast

variable {group : OutputGroup}

namespace MultiStore

/-- The same metrics, with the same outputs at the same cells, under metadata that agree. -/
structure AgreesWith (multi other : MultiStore group) : Prop where
  /-- No metric is missing on either side. -/
  metrics : multi.metrics = other.metrics
  /-- Stores of a metric differ in the rest of their metadata at most. -/
  stores : ∀ metric store, other.get? metric = some store →
    ∃ own, multi.get? metric = some own ∧ own.entries = store.entries
      ∧ own.metadata.minimallyEqual store.metadata = true

end MultiStore

namespace MultiStoreBuilder

variable {filings : List (Filing group)}

theorem mem_metrics_iff {multi : MultiStore group}
    (assembled : (ofFilings filings).assemble = .ok multi) {metric : MetricKey} :
    metric ∈ multi.metrics ↔ ∃ entry, (metric, entry) ∈ filings := by
  obtain ⟨-, stores⟩ := get?_of_assemble_eq_ok assembled
  rw [MultiStore.metrics, ← SortedMap.isSome_get?_iff, Option.isSome_iff_exists]
  constructor
  · rintro ⟨store, has⟩
    obtain ⟨filled, isFilled, -⟩ := (stores metric store).mp has
    obtain ⟨nonempty, -⟩ := get?_builders_ofFilings_eq_some_iff.mp isFilled
    obtain ⟨entry, member⟩ := List.exists_mem_of_ne_nil _ nonempty
    exact ⟨entry, mem_under.mp member⟩
  · rintro ⟨entry, filed⟩
    exact exists_store_of_filing assembled filed

/-- Once an output is filed, only metadata can be at fault. -/
theorem mismatch_of_assemble_ofFilings (filed : filings ≠ []) {cause : DataError}
    (failed : (ofFilings filings).assemble = .error cause) :
    ∃ mismatch, cause = .metadataMismatch mismatch := by
  have occupied : (ofFilings filings).builders.entries ≠ [] := by
    obtain ⟨⟨metric, entry⟩, member⟩ := List.exists_mem_of_ne_nil _ filed
    have nonempty : under filings metric ≠ [] := List.ne_nil_of_mem (mem_under.mpr member)
    have isBuilder := get?_builders_ofFilings_eq_some_iff.mpr ⟨nonempty, rfl⟩
    exact List.ne_nil_of_mem (SortedMap.get?_eq_some_iff.mp isBuilder)
  obtain ⟨before, ⟨metric, builder⟩, after, split, -, fails⟩ :=
    exists_failing_of_assemble occupied failed
  have isBuilder : (ofFilings filings).builders.get? metric = some builder :=
    SortedMap.get?_eq_some_iff.mpr (by simp [split])
  obtain ⟨nonempty, rfl⟩ := get?_builders_ofFilings_eq_some_iff.mp isBuilder
  obtain ⟨first, rest, isUnder⟩ := List.exists_cons_of_ne_nil nonempty
  have isReference : (StoreBuilder.putAll {} (under filings metric)).reference
      = some first.2.metadata := by
    rw [StoreBuilder.putAll_eq, isUnder]
    rfl
  exact StoreBuilder.mismatch_of_assemble_eq_error isReference fails

end MultiStoreBuilder

namespace ShapeResults

variable {results : List (CellKey × Settlement group)}

/-- Outputs may be grouped by metric and then by cell, or by cell and then by metric. -/
theorem under_under_filings (metric : MetricKey) (key : CellKey) :
    under (under (results.flatMap Settlement.filings) metric) key
      = under ((under results key).flatMap Settlement.entries) metric := by
  induction results with
  | nil => rfl
  | cons result rest ih =>
    obtain ⟨cell, settlement⟩ := result
    have filed : under (Settlement.filings (cell, settlement)) metric
        = (under settlement.entries metric).map fun output => (cell, output) := by
      simp [under, Settlement.filings, List.filter_map, Function.comp_def]
    rw [List.flatMap_cons, under_append, under_append, ih, filed, under_cons]
    by_cases same : cell = key
    · subst same
      simp [under, List.filter_map, Function.comp_def]
    · simp [under, List.filter_map, Function.comp_def, same]

/-- The output that counts is the one filed last. -/
theorem winner?_eq_last_filed (metric : MetricKey) (key : CellKey) :
    winner? (under results) metric key
      = ((under (results.flatMap Settlement.filings) metric).reverse.find? fun entry =>
        entry.1 = key).map Prod.snd := by
  rw [winner?_eq, ← getLast?_under, ← getLast?_under, under_under_filings]

theorem Stored.mem_metrics_iff {multi : MultiStore group} (stored : Stored (under results) multi)
    {metric : MetricKey} :
    metric ∈ multi.metrics ↔ ∃ entry, (metric, entry) ∈ results.flatMap Settlement.filings := by
  rw [MultiStore.metrics, ← SortedMap.isSome_get?_iff, Option.isSome_iff_exists]
  constructor
  · rintro ⟨store, has⟩
    obtain ⟨key, output, isReference, -⟩ := stored.metadata metric store has
    exact ⟨(key, output), mem_filings_of_winner? isReference.found⟩
  · rintro ⟨⟨key, output⟩, filed⟩
    exact stored.exists_store (isSome_winner?_of_mem filed)

section

variable {bulk : MultiStore group}
  (assembled : (MultiStoreBuilder.ofFilings (results.flatMap Settlement.filings)).assemble
    = .ok bulk)

include assembled

theorem get?_bulk {metric : MetricKey} {store : Store group}
    (has : bulk.get? metric = some store) (key : CellKey) :
    store.get? key = winner? (under results) metric key := by
  rw [(MultiStoreBuilder.get?_store_of_filings assembled has).2, winner?_eq_last_filed]

/-- Outputs that agree with those filed first agree with each other. -/
theorem agree_of_bulk (metric : MetricKey) : Agree (under results) metric := by
  intro first second firstOutput secondOutput isFirst isSecond
  obtain ⟨store, has⟩ :=
    MultiStoreBuilder.exists_store_of_filing assembled (mem_filings_of_winner? isFirst)
  have consistent := (MultiStoreBuilder.get?_store_of_filings assembled has).1
  have agrees {key : CellKey} {output : Output group}
      (counts : winner? (under results) metric key = some output) :
      output.metadata.minimallyEqual store.metadata = true := by
    rw [← get?_bulk assembled has] at counts
    exact consistent.agrees _ (SortedMap.get?_eq_some_iff.mp counts)
  exact OutputMetadata.minimallyEqual_of_common (agrees isFirst) (agrees isSecond)

theorem Stored.agreesWith {multi : MultiStore group} (stored : Stored (under results) multi) :
    multi.AgreesWith bulk := by
  constructor
  case metrics =>
    refine StrictlyAscending.eq_of_mem_iff multi.stores.ascending bulk.stores.ascending
      fun metric => ?_
    exact stored.mem_metrics_iff.trans (MultiStoreBuilder.mem_metrics_iff assembled).symm
  case stores =>
    intro metric store has
    have consistent := (MultiStoreBuilder.get?_store_of_filings assembled has).1
    have found {key : CellKey} {output : Output group} :
        winner? (under results) metric key = some output ↔
          (key, output) ∈ store.entries.entries := by
      rw [← get?_bulk assembled has]
      exact SortedMap.get?_eq_some_iff
    obtain ⟨⟨key, output⟩, member⟩ := List.exists_mem_of_ne_nil _ consistent.nonempty
    obtain ⟨own, isOwn⟩ := stored.exists_store (Option.isSome_of_eq_some (found.mpr member))
    obtain ⟨first, reference, isReference, metadata⟩ := stored.metadata metric own isOwn
    refine ⟨own, isOwn, ?_, ?_⟩
    · refine SortedMap.ext_get? fun key => ?_
      exact (stored.get?_store isOwn key).trans (get?_bulk assembled has key).symm
    · rw [metadata]
      exact consistent.agrees _ (found.mp isReference.found)

/-- Whatever a builder accepts is resolved to the same outputs. -/
theorem Determine.agreesWith {outcome : Resolution group}
    (determine : Determine (under results) outcome) (succeed : Succeed (under results)) :
    ∃ resolved, outcome = .ok (some resolved) ∧ resolved.AgreesWith bulk := by
  cases determine with
  | failed failure => exact absurd succeed failure.not_succeed
  | nothing _ missing =>
    have filed : results.flatMap Settlement.filings ≠ [] := by
      intro nothing
      rw [nothing] at assembled
      cases assembled
    obtain ⟨⟨metric, key, output⟩, member⟩ := List.exists_mem_of_ne_nil _ filed
    have counts := isSome_winner?_of_mem member
    rw [missing] at counts
    cases counts
  | inconsistent _ mismatch => exact absurd (agree_of_bulk assembled) mismatch.not_agree
  | stored _ _ _ stored => exact ⟨_, rfl, stored.agreesWith assembled⟩

end

/-- A builder refuses for its metadata whatever is inconsistent. -/
theorem Determine.mismatch {cause : DataError}
    (determine : Determine (under results) (.error (.inconsistent group cause))) :
    ∃ mismatch, (MultiStoreBuilder.ofFilings (results.flatMap Settlement.filings)).assemble
      = .error (.metadataMismatch mismatch) := by
  cases determine with
  | failed failure => cases failure
  | inconsistent succeed mismatch =>
    cases assembled :
        (MultiStoreBuilder.ofFilings (results.flatMap Settlement.filings)).assemble with
    | ok bulk => exact absurd (agree_of_bulk assembled) mismatch.not_agree
    | error cause =>
      obtain ⟨metric, key, has⟩ := mismatch.present
      obtain ⟨output, counts⟩ := Option.isSome_iff_exists.mp has
      have filed := List.ne_nil_of_mem (mem_filings_of_winner? counts)
      obtain ⟨fault, rfl⟩ := MultiStoreBuilder.mismatch_of_assemble_ofFilings filed assembled
      exact ⟨fault, rfl⟩

end ShapeResults

/-! ## Runs that register cells -/

/-- Cells whose outputs are there when they are registered. -/
def readyCells (cells : List (CellKey × CellOutputs group)) :
    List (CellKey × PendingCell group) :=
  cells.map fun cell => (cell.1, .ready (.ok cell.2))

/-- The results of such cells. -/
def readyResults (cells : List (CellKey × CellOutputs group)) :
    List (CellKey × Settlement group) :=
  cells.map fun cell => (cell.1, .outputs cell.2)

theorem settledAs_readyResults (producers : List (Option (Settlement group)))
    (cells : List (CellKey × CellOutputs group)) :
    ShapeGroup.SettledAs producers (readyCells cells) (readyResults cells) := by
  induction cells with
  | nil => exact .nil
  | cons cell rest ih => exact .cons ⟨rfl, rfl⟩ ih

theorem succeed_readyResults (cells : List (CellKey × CellOutputs group)) :
    ShapeResults.Succeed (under (readyResults cells)) := by
  intro key settlement member
  obtain ⟨cell, -, isResult⟩ := List.mem_map.mp (mem_under.mp member)
  cases isResult
  exact ⟨cell.2, rfl⟩

theorem filings_readyResults (cells : List (CellKey × CellOutputs group)) :
    (readyResults cells).flatMap Settlement.filings = MultiStoreBuilder.puts cells := by
  rw [readyResults, List.flatMap_map]
  rfl

namespace ProjectRun

/-- Register cells one after the other. -/
def registerReady (run : ProjectRun) (cells : List (CellKey × CellOutputs group)) : ProjectRun :=
  cells.foldl (fun run cell => run.register group cell.1 (.ready (.ok cell.2))) run

theorem registerReady_spec {run : ProjectRun} (reachable : run.Reachable)
    (accumulating : run.project.phase = .accumulating)
    (cells : List (CellKey × CellOutputs group)) :
    (run.registerReady cells).Reachable
      ∧ ((run.registerReady cells).histories group).registered
        = (run.histories group).registered ++ readyCells cells := by
  induction cells generalizing run with
  | nil => simpa [registerReady, readyCells] using reachable
  | cons cell rest ih =>
    have next := reachable.step (.register accumulating group cell.1 (.ready (.ok cell.2)))
    have registered : ((run.register group cell.1 (.ready (.ok cell.2))).histories group).registered
        = (run.histories group).registered ++ [(cell.1, .ready (.ok cell.2))] :=
      congrArg ShapeHistory.registered (Function.update_self group _ run.histories)
    obtain ⟨restReachable, restRegistered⟩ := ih next accumulating
    rw [registered, List.append_assoc] at restRegistered
    exact ⟨restReachable, restRegistered⟩

/-- Registering cells and asking for the outcome agrees with putting them into a builder one after
the other.  There is an outcome at once.  If the builder accepts the cells, it is a store of the
same outputs under metadata that agree; if the outcome is that they are inconsistent, the builder
refuses them for their metadata. -/
theorem resolve_agrees_with_bulk (cells : List (CellKey × CellOutputs group)) :
    (∀ collectMetrics, ((start collectMetrics).registerReady cells).Reachable
        ∧ (((start collectMetrics).registerReady cells).histories group).registered
          = readyCells cells)
      ∧ ∀ run : ProjectRun, run.Reachable →
        (run.histories group).registered = readyCells cells →
        ∃ outcome, (run.project.resolve group).2.1 = some outcome
          ∧ (∀ bulk, (MultiStoreBuilder.ofCells cells).build = .ok bulk →
            ∃ resolved, outcome = .ok (some resolved) ∧ resolved.AgreesWith bulk)
          ∧ ∀ cause, outcome = .error (.inconsistent group cause) →
            ∃ mismatch, (MultiStoreBuilder.ofCells cells).build
              = .error (.invalidInput (.metadataMismatch mismatch)) := by
  refine ⟨fun collectMetrics => registerReady_spec (.start collectMetrics) rfl cells,
    fun run reachable registered => ?_⟩
  obtain ⟨outcome, resolved, determine⟩ := ShapeGroup.exists_map_resolve
    (settledAs_readyResults (run.project.shapes group).producers cells)
  have answer : (run.project.resolve group).2.1 = some outcome := by
    rw [← resolved, ← registered]
    exact (reachable.fits.shapes group).answer_eq run.project.collectMetrics
  have filings := (MultiStoreBuilder.ofCells_eq cells).trans
    (congrArg MultiStoreBuilder.ofFilings (filings_readyResults cells).symm)
  refine ⟨outcome, answer, fun bulk built => ?_, ?_⟩
  · rw [MultiStoreBuilder.build, mapError_eq_ok_iff, filings] at built
    exact determine.agreesWith built (succeed_readyResults cells)
  · rintro cause rfl
    obtain ⟨mismatch, refused⟩ := determine.mismatch
    rw [MultiStoreBuilder.build, filings, refused]
    exact ⟨mismatch, rfl⟩

/-- The builder has the metadata of the late output that it took first and replaced since, and the
project those of the early one.  An output of another metric is refused by both. -/
theorem resolve_agrees_with_bulk_reordered :
    let metric : MetricKey := ⟨.meanError, none⟩
    let early : CellKey := ⟨.unbounded, .allData⟩
    let late : CellKey := ⟨{ TimeWindow.unbounded with latestLead := ⟨Duration.second⟩ }, .allData⟩
    let cell (of : Metric) (sampleSize : Nat) : CellOutputs .doubleScore :=
      .ofList [(metric, ⟨.one, { metric := of, sampleSize }⟩)]
    let agreeing := [(late, cell .meanError 1), (early, cell .meanError 2),
      (late, cell .meanError 3)]
    let clashing := agreeing ++ [(early, cell .biasFraction 4)]
    let outcome (cells : List (CellKey × CellOutputs .doubleScore)) :=
      (((start true).registerReady cells).project.build.resolve .doubleScore).2.1
    (∃ bulk resolved, (MultiStoreBuilder.ofCells agreeing).build = .ok bulk
        ∧ outcome agreeing = some (.ok (some resolved)) ∧ resolved.AgreesWith bulk
        ∧ (bulk.get? metric).map (fun store => store.metadata.sampleSize) = some 1
        ∧ (resolved.get? metric).map (fun store => store.metadata.sampleSize) = some 2)
      ∧ ∃ cause mismatch, outcome clashing = some (.error (.inconsistent .doubleScore cause))
        ∧ (MultiStoreBuilder.ofCells clashing).build
          = .error (.invalidInput (.metadataMismatch mismatch)) := by
  intro metric early late cell agreeing clashing outcome
  have agreement (cells : List (CellKey × CellOutputs .doubleScore)) :
      ∃ resolution, outcome cells = some resolution
        ∧ (∀ bulk, (MultiStoreBuilder.ofCells cells).build = .ok bulk →
          ∃ resolved, resolution = .ok (some resolved) ∧ resolved.AgreesWith bulk)
        ∧ ∀ cause, resolution = .error (.inconsistent .doubleScore cause) →
          ∃ mismatch, (MultiStoreBuilder.ofCells cells).build
            = .error (.invalidInput (.metadataMismatch mismatch)) := by
    obtain ⟨runs, agree⟩ := resolve_agrees_with_bulk cells
    obtain ⟨reachable, registered⟩ := runs true
    exact agree _ (reachable.step .build) registered
  constructor
  · obtain ⟨resolution, isOutcome, accepted, -⟩ := agreement agreeing
    obtain ⟨bulk, built⟩ : ∃ bulk, (MultiStoreBuilder.ofCells agreeing).build = .ok bulk :=
      ⟨_, rfl⟩
    obtain ⟨resolved, rfl, agrees⟩ := accepted bulk built
    refine ⟨bulk, resolved, built, isOutcome, agrees, ?_, ?_⟩
    · cases built
      rfl
    · cases isOutcome
      rfl
  · obtain ⟨resolution, isOutcome, -, refused⟩ := agreement clashing
    obtain ⟨cause, isCause⟩ : ∃ cause,
        outcome clashing = some (.error (.inconsistent .doubleScore cause)) := ⟨_, rfl⟩
    obtain ⟨mismatch, isMismatch⟩ := refused cause (Option.some.inj (isOutcome.symm.trans isCause))
    exact ⟨cause, mismatch, isCause, isMismatch⟩

end ProjectRun

end Forecast
