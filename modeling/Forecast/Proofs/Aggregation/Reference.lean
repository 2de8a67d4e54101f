import Forecast.Aggregation.Resolution
import Forecast.Proofs.Collection.Groups
import Forecast.Output.Order

/-!
# What results determine

The results of the cells of a shape determine one resolution.  A result that is no output decides
it: the first one of the least cell that has any.  Otherwise, in every cell, the last result that
has a metric counts for it.  Without outputs there is no store, and outputs of one metric that are
not minimally equal are inconsistent.  Nothing here mentions how results are collected.
-/

namespace Forecast

namespace Settlement

variable {group : OutputGroup}

/-- The result is outputs. -/
def Succeeds (settlement : Settlement group) : Prop := ∃ cell, settlement = outputs cell

/-- The outputs with their metrics. -/
def entries : Settlement group → List (MetricKey × Output group)
  | outputs cell => cell.entries
  | failed _ | interrupted _ => []

/-- The output of a metric. -/
def output? (settlement : Settlement group) (metric : MetricKey) : Option (Output group) :=
  match settlement with
  | outputs cell => cell.get? metric
  | failed _ | interrupted _ => none

theorem output?_eq_find? (settlement : Settlement group) (metric : MetricKey) :
    settlement.output? metric
      = (settlement.entries.reverse.find? fun entry => entry.1 = metric).map Prod.snd := by
  cases settlement with
  | outputs cell => exact (cell.find?_reverse_entries metric).symm
  | failed failure | interrupted interruption => rfl

end Settlement

/-- The results of every cell of a shape, in the order of their registration. -/
abbrev ShapeResults (group : OutputGroup) := CellKey → List (Settlement group)

namespace ShapeResults

variable {group : OutputGroup} (results : ShapeResults group)

/-- Every result is outputs. -/
def Succeed : Prop := ∀ key, ∀ settlement ∈ results key, settlement.Succeeds

/-- Some result of the cell is no output. -/
def Fails (key : CellKey) : Prop := ∃ settlement ∈ results key, ¬settlement.Succeeds

/-- The error of the first result that is no output, in the least cell that has any. -/
inductive FirstFailure : AggregationError → Prop where
  | failed {key : CellKey} (least : Least results.Fails key) {failure : Failure}
      {before after : List (Settlement group)}
      (split : results key = before ++ .failed failure :: after)
      (earliest : ∀ earlier ∈ before, earlier.Succeeds) :
      FirstFailure (.cellFailed group key failure)
  | interrupted {key : CellKey} (least : Least results.Fails key) {interruption : Interruption}
      {before after : List (Settlement group)}
      (split : results key = before ++ .interrupted interruption :: after)
      (earliest : ∀ earlier ∈ before, earlier.Succeeds) :
      FirstFailure (.interrupted group key interruption)

/-- The output that counts: that of the last result of the cell that has the metric. -/
def winner? (metric : MetricKey) (key : CellKey) : Option (Output group) :=
  (results key).reverse.findSome? fun settlement => settlement.output? metric

/-- The output of a metric that counts in the least cell that has one. -/
structure IsReference (metric : MetricKey) (key : CellKey) (output : Output group) : Prop where
  /-- No lesser cell has an output. -/
  least : Least (fun other => (results.winner? metric other).isSome) key
  /-- The output counts in the cell. -/
  found : results.winner? metric key = some output

/-- All outputs of a metric that count are minimally equal. -/
def Agree (metric : MetricKey) : Prop :=
  ∀ first second firstOutput secondOutput, results.winner? metric first = some firstOutput →
    results.winner? metric second = some secondOutput →
    firstOutput.metadata.minimallyEqual secondOutput.metadata = true

/-- The output of a metric that counts in the cell is not minimally equal to another. -/
def Differs (metric : MetricKey) (reference : Output group) (key : CellKey) : Prop :=
  ∃ output, results.winner? metric key = some output
    ∧ output.metadata.minimallyEqual reference.metadata = false

/-- The least metric with a mismatch, at the least cell that shows it. -/
inductive FirstMismatch : DataError → Prop where
  | differs {metric : MetricKey} (leastMetric : Least (fun other => ¬results.Agree other) metric)
      {first key : CellKey} {reference found : Output group}
      (isReference : results.IsReference metric first reference)
      (leastCell : Least (results.Differs metric reference) key)
      (isFound : results.winner? metric key = some found) :
      FirstMismatch (.metadataMismatch (.entry key found.metadata reference.metadata))

/-- The store has the outputs that count and no others, with the metadata of the least cell. -/
structure Stored (multi : MultiStore group) : Prop where
  /-- An output is there just when it counts. -/
  entry : ∀ metric key,
    ((multi.get? metric).bind fun store => store.get? key) = results.winner? metric key
  /-- The metadata of a metric are those of its output in the least cell. -/
  metadata : ∀ metric store, multi.get? metric = some store →
    ∃ key output, results.IsReference metric key output ∧ store.metadata = output.metadata

/-- The resolution that results determine. -/
inductive Determine : Resolution group → Prop where
  | failed {cause : AggregationError} (failure : results.FirstFailure cause) :
      Determine (.error cause)
  | nothing (succeed : results.Succeed)
      (missing : ∀ metric key, results.winner? metric key = none) : Determine (.ok none)
  | inconsistent (succeed : results.Succeed) {cause : DataError}
      (mismatch : results.FirstMismatch cause) : Determine (.error (.inconsistent group cause))
  | stored (succeed : results.Succeed)
      (present : ∃ metric key, (results.winner? metric key).isSome)
      (agree : ∀ metric, results.Agree metric) {multi : MultiStore group}
      (stored : results.Stored multi) : Determine (.ok (some multi))

variable {results}

/-! ## Uniqueness -/

private theorem split_unique {settlements before after otherBefore otherAfter :
      List (Settlement group)} {first second : Settlement group}
    (split : settlements = before ++ first :: after)
    (otherSplit : settlements = otherBefore ++ second :: otherAfter)
    (succeeds : ∀ earlier ∈ before, earlier.Succeeds)
    (otherSucceeds : ∀ earlier ∈ otherBefore, earlier.Succeeds)
    (fails : ¬first.Succeeds) (otherFails : ¬second.Succeeds) : first = second := by
  induction before generalizing settlements otherBefore with
  | nil =>
    cases otherBefore with
    | nil => exact (List.cons.inj (split.symm.trans otherSplit)).1
    | cons here _ =>
      have same : first = here := (List.cons.inj (split.symm.trans otherSplit)).1
      exact absurd (same ▸ otherSucceeds here List.mem_cons_self) fails
  | cons here before ih =>
    cases otherBefore with
    | nil =>
      have same : here = second := (List.cons.inj (split.symm.trans otherSplit)).1
      exact absurd (same ▸ succeeds here List.mem_cons_self) otherFails
    | cons other otherBefore =>
      have rest := (List.cons.inj (split.symm.trans otherSplit)).2
      exact ih rfl rest (List.forall_mem_cons.mp succeeds).2
        (List.forall_mem_cons.mp otherSucceeds).2

private theorem not_succeeds_failed {failure : Failure} :
    ¬(Settlement.failed failure : Settlement group).Succeeds := by
  rintro ⟨_, ⟨⟩⟩

private theorem not_succeeds_interrupted {interruption : Interruption} :
    ¬(Settlement.interrupted interruption : Settlement group).Succeeds := by
  rintro ⟨_, ⟨⟩⟩

theorem FirstFailure.unique {first second : AggregationError}
    (isFirst : results.FirstFailure first) (isSecond : results.FirstFailure second) :
    first = second := by
  cases isFirst with
  | failed least split earliest =>
    cases isSecond with
    | failed otherLeast otherSplit otherEarliest =>
      obtain rfl := least.unique otherLeast
      cases split_unique split otherSplit earliest otherEarliest not_succeeds_failed
        not_succeeds_failed
      rfl
    | interrupted otherLeast otherSplit otherEarliest =>
      obtain rfl := least.unique otherLeast
      cases split_unique split otherSplit earliest otherEarliest not_succeeds_failed
        not_succeeds_interrupted
  | interrupted least split earliest =>
    cases isSecond with
    | failed otherLeast otherSplit otherEarliest =>
      obtain rfl := least.unique otherLeast
      cases split_unique split otherSplit earliest otherEarliest not_succeeds_interrupted
        not_succeeds_failed
    | interrupted otherLeast otherSplit otherEarliest =>
      obtain rfl := least.unique otherLeast
      cases split_unique split otherSplit earliest otherEarliest not_succeeds_interrupted
        not_succeeds_interrupted
      rfl

theorem FirstFailure.not_succeed {cause : AggregationError}
    (failure : results.FirstFailure cause) : ¬results.Succeed := by
  intro succeed
  cases failure with
  | @failed key least =>
    obtain ⟨settlement, member, fails⟩ := least.1
    exact fails (succeed key settlement member)
  | @interrupted key least =>
    obtain ⟨settlement, member, fails⟩ := least.1
    exact fails (succeed key settlement member)

theorem IsReference.unique {metric : MetricKey} {first second : CellKey}
    {output other : Output group} (isFirst : results.IsReference metric first output)
    (isSecond : results.IsReference metric second other) : output = other := by
  obtain rfl := isFirst.least.unique isSecond.least
  exact Option.some.inj (isFirst.found.symm.trans isSecond.found)

theorem FirstMismatch.unique {first second : DataError} (isFirst : results.FirstMismatch first)
    (isSecond : results.FirstMismatch second) : first = second := by
  obtain ⟨leastMetric, isReference, leastCell, isFound⟩ := isFirst
  obtain ⟨otherMetric, otherReference, otherCell, otherFound⟩ := isSecond
  obtain rfl := leastMetric.unique otherMetric
  obtain rfl := isReference.unique otherReference
  obtain rfl := leastCell.unique otherCell
  obtain rfl := Option.some.inj (isFound.symm.trans otherFound)
  rfl

theorem FirstMismatch.not_agree {cause : DataError} (mismatch : results.FirstMismatch cause) :
    ¬∀ metric, results.Agree metric := by
  intro agree
  cases mismatch with
  | @differs metric leastMetric => exact leastMetric.1 (agree metric)

theorem FirstMismatch.present {cause : DataError} (mismatch : results.FirstMismatch cause) :
    ∃ metric key, (results.winner? metric key).isSome := by
  cases mismatch with
  | @differs metric _ first _ _ _ isReference => exact ⟨metric, first, isReference.least.1⟩

theorem Stored.unique {first second : MultiStore group} (isFirst : results.Stored first)
    (isSecond : results.Stored second) : first = second := by
  have present {multi other : MultiStore group} (isMulti : results.Stored multi)
      (isOther : results.Stored other) {metric : MetricKey} {store : Store group}
      (has : multi.get? metric = some store) : other.get? metric = some store := by
    obtain ⟨key, output, isReference, metadata⟩ := isMulti.metadata metric store has
    have there := isOther.entry metric key
    rw [isReference.found] at there
    obtain ⟨otherStore, otherHas, -⟩ := Option.bind_eq_some_iff.mp there
    obtain ⟨otherKey, otherOutput, otherReference, otherMetadata⟩ :=
      isOther.metadata metric otherStore otherHas
    have sameEntries : otherStore.entries = store.entries := by
      refine SortedMap.ext_get? fun key => ?_
      have entry := (isOther.entry metric key).trans (isMulti.entry metric key).symm
      rw [otherHas, has] at entry
      exact entry
    have sameMetadata : otherStore.metadata = store.metadata := by
      rw [otherMetadata, metadata, otherReference.unique isReference]
    cases store
    cases otherStore
    simp only [otherHas, Option.some.injEq, Store.mk.injEq]
    exact ⟨sameEntries, sameMetadata⟩
  have stores : first.stores = second.stores := by
    refine SortedMap.ext_get? fun metric => Option.ext fun store => ?_
    exact ⟨present isFirst isSecond, present isSecond isFirst⟩
  cases first
  cases second
  exact congrArg MultiStore.mk stores

/-- Results determine one resolution only. -/
theorem Determine.unique {first second : Resolution group} (isFirst : results.Determine first)
    (isSecond : results.Determine second) : first = second := by
  have absent (missing : ∀ metric key, results.winner? metric key = none)
      (present : ∃ metric key, (results.winner? metric key).isSome) : False := by
    obtain ⟨metric, key, some⟩ := present
    rw [missing] at some
    cases some
  cases isFirst with
  | failed failure =>
    cases isSecond with
    | failed otherFailure => rw [failure.unique otherFailure]
    | nothing succeed | inconsistent succeed | stored succeed =>
      exact absurd succeed failure.not_succeed
  | nothing succeed missing =>
    cases isSecond with
    | failed failure => exact absurd succeed failure.not_succeed
    | nothing => rfl
    | inconsistent _ mismatch => exact (absent missing mismatch.present).elim
    | stored _ present => exact (absent missing present).elim
  | inconsistent succeed mismatch =>
    cases isSecond with
    | failed failure => exact absurd succeed failure.not_succeed
    | nothing _ missing => exact (absent missing mismatch.present).elim
    | inconsistent _ otherMismatch => rw [mismatch.unique otherMismatch]
    | stored _ _ agree => exact absurd agree mismatch.not_agree
  | stored succeed present agree stored =>
    cases isSecond with
    | failed failure => exact absurd succeed failure.not_succeed
    | nothing _ missing => exact (absent missing present).elim
    | inconsistent _ mismatch => exact absurd agree mismatch.not_agree
    | stored _ _ _ otherStored => rw [stored.unique otherStored]

end ShapeResults

end Forecast
