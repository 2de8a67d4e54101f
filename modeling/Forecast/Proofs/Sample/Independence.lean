import Forecast.Proofs.Sample.Sources
import Forecast.Proofs.Sample.Union
import Mathlib.Data.List.Perm.Basic

/-!
# Independence of joined metadata

What metadata amount to depends only on which metadata there are: neither their order nor their
repetition matters, and some of them may be joined before the others.  A threshold that is lost in a
join does not come back, as the join then stands for metadata that are not all equal.
-/

namespace Forecast.SampleMetadata

variable {metadata part rest : List SampleMetadata} {joined result : SampleMetadata}

/-- All metadata are equal. -/
def AllEqual (metadata : List SampleMetadata) : Prop :=
  ∀ left ∈ metadata, ∀ right ∈ metadata, left = right

theorem AllEqual.of_subset (equal : AllEqual metadata) (within : part ⊆ metadata) :
    AllEqual part :=
  fun left inLeft right inRight => equal left (within inLeft) right (within inRight)

theorem allEqual_of_forall_eq (every : ∀ given ∈ metadata, given = result) : AllEqual metadata :=
  fun left inLeft right inRight => (every left inLeft).trans (every right inRight).symm

theorem allEqual_cons_iff {first : SampleMetadata} :
    AllEqual (first :: rest) ↔ rest.all (· == first) = true := by
  simp only [List.all_eq_true, beq_iff_eq]
  constructor
  · intro equal next member
    exact equal next (List.mem_cons_of_mem _ member) first List.mem_cons_self
  · intro same
    exact allEqual_of_forall_eq (List.forall_mem_cons.mpr ⟨rfl, same⟩)

/-- What metadata amount to, said without regard to their order. -/
structure AmountTo (metadata : List SampleMetadata) (result : SampleMetadata) : Prop where
  source : ∀ given ∈ metadata, given.unit = result.unit ∧ given.identifier = result.identifier
  window : result.window = joinedWindow (metadata.filterMap SampleMetadata.window)
  /-- The result is what all metadata are, or it has lost the threshold. -/
  threshold : (∀ given ∈ metadata, given = result) ∨ result.threshold = none ∧ ¬AllEqual metadata

namespace AmountTo

theorem oneSource (amount : AmountTo metadata result) : OneSource metadata :=
  .of_forall amount.source

/-- Metadata that all are equal amount to one of them. -/
theorem mem_of_allEqual (amount : AmountTo metadata result) (nonempty : metadata ≠ [])
    (equal : AllEqual metadata) : result ∈ metadata := by
  rcases amount.threshold with same | ⟨-, differ⟩
  · obtain ⟨given, member⟩ := List.exists_mem_of_ne_nil _ nonempty
    rwa [← same given member]
  · exact absurd equal differ

theorem threshold_eq_none (amount : AmountTo metadata result) (differ : ¬AllEqual metadata) :
    result.threshold = none := by
  rcases amount.threshold with every | ⟨bare, -⟩
  · exact absurd (allEqual_of_forall_eq every) differ
  · exact bare

/-- Order and repetitions do not matter. -/
theorem congr (amount : AmountTo metadata result) {other : List SampleMetadata}
    (same : ∀ given, given ∈ other ↔ given ∈ metadata) : AmountTo other result where
  source given member := amount.source given ((same given).mp member)
  window := by
    rw [amount.window]
    refine joinedWindow_congr fun window => ?_
    simp only [List.mem_filterMap, same]
  threshold := by
    refine amount.threshold.imp ?_ (And.imp_right ?_)
    · exact fun equal given member => equal given ((same given).mp member)
    · exact fun differ equal => differ (equal.of_subset fun given => (same given).mpr)

/-- Metadata amount to what they do with a join of some of them in place of these. -/
theorem ungroup (amount : AmountTo (joined :: rest) result) (joins : AmountTo part joined)
    (nonempty : part ≠ []) : AmountTo (part ++ rest) result where
  source := by
    obtain ⟨⟨unit, identifier⟩, others⟩ := List.forall_mem_cons.mp amount.source
    refine List.forall_mem_append.mpr ⟨fun given member => ?_, others⟩
    rw [← unit, ← identifier]
    exact joins.source given member
  window := by
    rw [amount.window, List.filterMap_append, ← joinedWindow_append, ← joins.window]
    cases has : joined.window <;> simp [has]
  threshold := by
    rcases amount.threshold with same | ⟨bare, differ⟩
    · obtain ⟨rfl, others⟩ := List.forall_mem_cons.mp same
      -- The join may itself have lost the threshold.
      rcases joins.threshold with partSame | ⟨bare, partDiffers⟩
      · exact .inl (List.forall_mem_append.mpr ⟨partSame, others⟩)
      · exact .inr ⟨bare, fun equal =>
          partDiffers (equal.of_subset (List.subset_append_left part rest))⟩
    · refine .inr ⟨bare, fun equal => differ (equal.of_subset (List.cons_subset.mpr ⟨?_, ?_⟩))⟩
      · have partEqual : AllEqual part := equal.of_subset (List.subset_append_left part rest)
        exact List.mem_append_left rest (joins.mem_of_allEqual nonempty partEqual)
      · exact List.subset_append_right part rest

end AmountTo

/-- Metadata are resolved just as what they amount to. -/
theorem resolve_eq_some_iff (nonempty : metadata ≠ []) :
    resolve metadata = .ok (some result) ↔ AmountTo metadata result := by
  obtain ⟨first, rest, rfl⟩ := List.exists_cons_of_ne_nil nonempty
  rw [resolve]
  by_cases same : rest.all (· == first) = true
  · rw [if_pos same]
    have equal : AllEqual (first :: rest) := allEqual_cons_iff.mpr same
    constructor
    · intro resolved
      obtain rfl : first = result := Option.some.inj (Except.ok.inj resolved)
      have every : ∀ given ∈ first :: rest, given = first :=
        fun given member => equal given member first List.mem_cons_self
      refine ⟨fun given member => ?_, (joinedWindow_of_all same).symm, .inl every⟩
      rw [every given member]
      exact ⟨rfl, rfl⟩
    · intro amount
      rw [equal first List.mem_cons_self result (amount.mem_of_allEqual nonempty equal)]
      rfl
  · rw [if_neg same]
    have differ : ¬AllEqual (first :: rest) := fun equal => same (allEqual_cons_iff.mp equal)
    cases named : foreign? first rest with
    | some found =>
      rw [union_eq_error named]
      constructor
      · rintro ⟨⟩
      · intro amount
        rw [foreign?_eq_none_iff.mpr amount.oneSource] at named
        cases named
    | none =>
      rw [union_eq_ok named]
      constructor
      · rintro ⟨⟩
        have others := oneSource_cons.mp (foreign?_eq_none_iff.mp named)
        exact ⟨List.forall_mem_cons.mpr ⟨⟨rfl, rfl⟩, others⟩, rfl, .inr ⟨rfl, differ⟩⟩
      · intro amount
        obtain ⟨unit, identifier⟩ := amount.source first List.mem_cons_self
        rw [unit, identifier, ← amount.window, ← amount.threshold_eq_none differ]
        rfl

/-- The order and the repetition of contributions do not matter. -/
theorem resolve_congr {left right : List SampleMetadata} (nonempty : left ≠ [])
    (same : ∀ given, given ∈ left ↔ given ∈ right) :
    resolve left = .ok (some result) ↔ resolve right = .ok (some result) := by
  have rightNonempty : right ≠ [] := by
    obtain ⟨given, member⟩ := List.exists_mem_of_ne_nil _ nonempty
    exact List.ne_nil_of_mem ((same given).mp member)
  rw [resolve_eq_some_iff nonempty, resolve_eq_some_iff rightNonempty]
  constructor
  · exact fun amount => amount.congr fun given => (same given).symm
  · exact fun amount => amount.congr same

/-- Contributions of one source amount to something. -/
theorem exists_resolve_iff (nonempty : metadata ≠ []) :
    (∃ result, resolve metadata = .ok (some result)) ↔ OneSource metadata := by
  constructor
  · rintro ⟨result, resolved⟩
    exact resolve_eq_ok_iff.mp ⟨_, resolved⟩
  · intro shared
    obtain ⟨resolved, succeeded⟩ := resolve_eq_ok_iff.mpr shared
    cases resolved with
    | none => exact absurd ((resolve_eq_none_iff succeeded).mp rfl) nonempty
    | some result => exact ⟨result, succeeded⟩

/-- A join of some metadata stands for them among the others. -/
theorem amountTo_cons_iff (joins : AmountTo part joined) (nonempty : part ≠ []) :
    AmountTo (joined :: rest) result ↔ AmountTo (part ++ rest) result := by
  refine ⟨fun amount => amount.ungroup joins nonempty, fun amount => ?_⟩
  have shared : OneSource (joined :: rest) := by
    obtain ⟨given, member⟩ := List.exists_mem_of_ne_nil _ nonempty
    rw [oneSource_cons]
    intro next inRest
    have ⟨unit, identifier⟩ := joins.source given member
    rw [← unit, ← identifier]
    exact amount.oneSource next (List.mem_append_right _ inRest) given
      (List.mem_append_left _ member)
  obtain ⟨other, resolved⟩ := (exists_resolve_iff (List.cons_ne_nil joined rest)).mpr shared
  have otherAmount := (resolve_eq_some_iff (List.cons_ne_nil joined rest)).mp resolved
  have appendNonempty : part ++ rest ≠ [] := List.append_ne_nil_of_left_ne_nil nonempty rest
  -- Metadata amount to one thing only, so what the regrouped ones amount to is the same.
  have first := (resolve_eq_some_iff appendNonempty).mpr (otherAmount.ungroup joins nonempty)
  have second := (resolve_eq_some_iff appendNonempty).mpr amount
  obtain rfl : other = result := Option.some.inj (Except.ok.inj (first.symm.trans second))
  exact otherAmount

theorem exists_mismatch (foreign : ¬OneSource metadata) :
    ∃ mismatch, resolve metadata = .error (.metadataMismatch mismatch) := by
  cases outcome : resolve metadata with
  | ok result => exact absurd (resolve_eq_ok_iff.mp ⟨result, outcome⟩) foreign
  | error cause =>
    cases resolve_eq_error_iff.mp outcome with
    | differs agree foreign => exact ⟨_, rfl⟩

/-- Resolution of metadata does not depend on their order, their repetition or their grouping.
Metadata of one source amount to something, others are refused.  The same metadata in another order,
and repeated or not, amount to the same.  Equal metadata amount to themselves; other metadata amount
to their source with the union of the windows that are present, without a threshold.  What some of
the metadata amount to may replace these, wherever it is put. -/
theorem resolve_independent (nonempty : metadata ≠ []) :
    ((∃ result, resolve metadata = .ok (some result)) ↔ OneSource metadata)
      ∧ (¬OneSource metadata → ∃ mismatch, resolve metadata = .error (.metadataMismatch mismatch))
      ∧ (∀ other : List SampleMetadata, (∀ given, given ∈ other ↔ given ∈ metadata) →
        ∀ result, resolve other = .ok (some result) ↔ resolve metadata = .ok (some result))
      ∧ (∀ result, resolve metadata = .ok (some result) →
        (∀ given ∈ metadata, given.unit = result.unit ∧ given.identifier = result.identifier)
          ∧ (AllEqual metadata → result ∈ metadata)
          ∧ (¬AllEqual metadata → result.threshold = none
            ∧ (result.window = none ↔ metadata.filterMap SampleMetadata.window = [])
            ∧ ∀ window, result.window = some window →
              window.IsUnion (metadata.filterMap SampleMetadata.window)))
      ∧ ∀ part rest placed : List SampleMetadata, metadata.Perm (part ++ rest) → part ≠ [] →
        ∀ joined, resolve part = .ok (some joined) → placed.Perm (joined :: rest) →
          ∀ result, resolve placed = .ok (some result) ↔ resolve metadata = .ok (some result) := by
  refine ⟨exists_resolve_iff nonempty, exists_mismatch, ?_, ?_, ?_⟩
  · intro other same result
    exact (resolve_congr nonempty fun given => (same given).symm).symm
  · intro result resolved
    have amount := (resolve_eq_some_iff nonempty).mp resolved
    refine ⟨amount.source, amount.mem_of_allEqual nonempty, fun differ => ?_⟩
    refine ⟨amount.threshold_eq_none differ, ?_, ?_⟩
    · rw [amount.window, joinedWindow_eq_none_iff]
    · intro window has
      exact (joinedWindow_eq_some_iff.mp (amount.window.symm.trans has)).2
  · intro part rest placed split partNonempty joined resolved permuted result
    have joins := (resolve_eq_some_iff partNonempty).mp resolved
    have appendNonempty : part ++ rest ≠ [] := List.append_ne_nil_of_left_ne_nil partNonempty rest
    have placedNonempty : placed ≠ [] :=
      List.ne_nil_of_mem (permuted.mem_iff.mpr List.mem_cons_self)
    rw [resolve_congr nonempty fun given => split.mem_iff,
      resolve_congr placedNonempty fun given => permuted.mem_iff,
      resolve_eq_some_iff appendNonempty, resolve_eq_some_iff (List.cons_ne_nil joined rest),
      amountTo_cons_iff joins partNonempty]

/-- Metadata at leads of one to two hours, above a threshold. -/
def early : SampleMetadata :=
  { window := some
      { TimeWindow.unbounded with
        earliestLead := ⟨3600 * Duration.second⟩
        latestLead := ⟨7200 * Duration.second⟩ }
    threshold := some .allData }

/-- The same at four hours. -/
def late : SampleMetadata :=
  { early with
    window := some
      { TimeWindow.unbounded with
        earliestLead := ⟨14400 * Duration.second⟩
        latestLead := ⟨14400 * Duration.second⟩ } }

/-- A join that has lost the threshold does not get it back from metadata that have it. -/
theorem resolve_independent_regrouped :
    ∃ joined, resolve [early, late] = .ok (some joined) ∧ joined.threshold = none
      ∧ resolve [early, joined] = .ok (some joined) := by
  refine ⟨_, rfl, rfl, ?_⟩
  obtain ⟨-, -, -, -, regrouped⟩ := resolve_independent (List.cons_ne_nil early [late, early])
  exact (regrouped [early, late] [early] _ (.refl _) (List.cons_ne_nil _ _) _ rfl
    (.swap _ _ []) _).mpr rfl

end Forecast.SampleMetadata
