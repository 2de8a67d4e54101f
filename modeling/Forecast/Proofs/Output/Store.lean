import Forecast.Output.Store
import Forecast.Proofs.Collection.Groups
import Forecast.Output.Order

/-!
# Assembling stores

A store that is filled cell by cell in their order assembles just when all outputs are minimally
equal to the first, whose metadata it then has.  Otherwise the first output that is not is named.
-/

namespace Forecast

namespace StoreBuilder

variable {group : OutputGroup}

theorem putAll_eq (builder : StoreBuilder group) (entries : List (CellKey × Output group)) :
    builder.putAll entries =
      { builder with
        entries := builder.entries.insertAll entries
        reference :=
          builder.reference.or (entries.head?.map fun entry => entry.2.metadata) } := by
  induction entries generalizing builder with
  | nil => simp [putAll, SortedMap.insertAll]
  | cons first rest ih =>
    have put := ih (builder.put first.1 first.2)
    simp only [putAll, List.foldl_cons] at put ⊢
    rw [put]
    simp only [StoreBuilder.put, SortedMap.insertAll, List.foldl_cons, List.head?_cons,
      Option.map_some]
    cases builder.reference <;> simp

theorem foreign?_eq_none_iff {reference : OutputMetadata}
    {entries : SortedMap CellKey (Output group)} :
    foreign? reference entries = none ↔
      ∀ entry ∈ entries.entries, entry.2.metadata.minimallyEqual reference = true := by
  simp only [foreign?, List.find?_eq_none, Bool.not_eq_true', Bool.not_eq_false]

/-- The output at the cell is not minimally equal to the reference. -/
def Foreign (reference : OutputMetadata) (entries : SortedMap CellKey (Output group))
    (key : CellKey) : Prop :=
  ∃ output, (key, output) ∈ entries.entries
    ∧ output.metadata.minimallyEqual reference = false

theorem foreign?_eq_some_iff {reference : OutputMetadata}
    {entries : SortedMap CellKey (Output group)} {key : CellKey} {output : Output group} :
    foreign? reference entries = some (key, output) ↔
      Least (Foreign reference entries) key ∧ (key, output) ∈ entries.entries := by
  rw [foreign?, SortedMap.find?_eq_some_iff]
  simp only [Bool.not_eq_true']
  rfl

/-- An output that differs from the reference is refused, that of the least such cell first. -/
theorem assemble_of_foreign {builder : StoreBuilder group} {reference : OutputMetadata}
    (isReference : builder.reference = some reference) {key : CellKey} {output : Output group}
    (least : Least (Foreign reference builder.entries) key)
    (member : (key, output) ∈ builder.entries.entries) :
    builder.assemble = .error (.metadataMismatch (.entry key output.metadata reference)) := by
  rw [assemble, isReference]
  simp only [foreign?_eq_some_iff.mpr ⟨least, member⟩]
  rfl

/-- Metadata given that differ from the reference are refused if no output does. -/
theorem assemble_of_replacement {builder : StoreBuilder group} {reference : OutputMetadata}
    (isReference : builder.reference = some reference)
    (agree : ∀ entry ∈ builder.entries.entries,
      entry.2.metadata.minimallyEqual reference = true)
    {metadata : OutputMetadata} (given : builder.metadata = some metadata)
    (differs : metadata.minimallyEqual reference = false) :
    builder.assemble = .error (.metadataMismatch (.replacement metadata reference)) := by
  rw [assemble, isReference, given]
  simp only [foreign?_eq_none_iff.mpr agree, differs]
  rfl

/-- Once there is an output, only metadata can be at fault. -/
theorem mismatch_of_assemble_eq_error {builder : StoreBuilder group} {reference : OutputMetadata}
    (isReference : builder.reference = some reference) {cause : DataError}
    (failed : builder.assemble = .error cause) :
    ∃ mismatch, cause = .metadataMismatch mismatch := by
  rw [assemble, isReference] at failed
  simp only [throw, throwThe, MonadExceptOf.throw, pure, Except.pure] at failed
  split at failed
  · cases failed
    exact ⟨_, rfl⟩
  · split at failed
    · cases failed
    · split at failed
      · cases failed
      · cases failed
        exact ⟨_, rfl⟩

/-- A store assembles just when there is a reference with which all outputs and the metadata given
agree. -/
theorem assemble_eq_ok_iff {builder : StoreBuilder group} {store : Store group} :
    builder.assemble = .ok store ↔
      ∃ reference, builder.reference = some reference
        ∧ (∀ entry ∈ builder.entries.entries,
          entry.2.metadata.minimallyEqual reference = true)
        ∧ store.metadata.minimallyEqual reference = true
        ∧ store = ⟨builder.entries, builder.metadata.getD reference⟩ := by
  rw [assemble]
  cases builder.reference with
  | none => simp [throw, throwThe, MonadExceptOf.throw]
  | some reference =>
    simp only [Option.some.injEq, exists_eq_left', ← foreign?_eq_none_iff]
    cases foreign? reference builder.entries with
    | some entry => simp [throw, throwThe, MonadExceptOf.throw]
    | none =>
      cases builder.metadata with
      | none =>
        simp only [pure, Except.pure, Except.ok.injEq, true_and, Option.getD_none]
        constructor
        · rintro rfl
          exact ⟨OutputMetadata.minimallyEqual_refl _, rfl⟩
        · rintro ⟨-, rfl⟩
          rfl
      | some metadata =>
        simp only [true_and, Option.getD_some]
        by_cases same : metadata.minimallyEqual reference = true
        · rw [if_pos same]
          simp only [pure, Except.pure, Except.ok.injEq]
          constructor
          · rintro rfl
            exact ⟨same, rfl⟩
          · rintro ⟨-, rfl⟩
            rfl
        · rw [if_neg same]
          simp only [throw, throwThe, MonadExceptOf.throw, reduceCtorEq, false_iff]
          rintro ⟨other, rfl⟩
          exact same other

section

variable {row : SortedMap CellKey (Output group)} {first : CellKey × Output group}
  {rest : List (CellKey × Output group)} (isRow : row.entries = first :: rest)

include isRow

theorem assemble_putAll :
    (putAll {} row.entries).assemble =
      match foreign? first.2.metadata row with
      | some (key, output) =>
          .error (.metadataMismatch (.entry key output.metadata first.2.metadata))
      | none => .ok ⟨row, first.2.metadata⟩ := by
  have entries : SortedMap.empty.insertAll row.entries = row := row.ofList_entries
  have head : row.entries.head? = some first := by rw [isRow, List.head?_cons]
  rw [putAll_eq, assemble]
  simp only [entries, head, Option.map_some, Option.none_or]
  cases foreign? first.2.metadata row <;> rfl

theorem assemble_putAll_eq_ok_iff {store : Store group} :
    (putAll {} row.entries).assemble = .ok store ↔
      (∀ entry ∈ row.entries, entry.2.metadata.minimallyEqual first.2.metadata = true)
        ∧ store = ⟨row, first.2.metadata⟩ := by
  rw [assemble_putAll isRow, ← foreign?_eq_none_iff]
  cases foreign? first.2.metadata row with
  | none => simp [eq_comm]
  | some => simp

theorem assemble_putAll_eq_error_iff {cause : DataError} :
    (putAll {} row.entries).assemble = .error cause ↔
      ∃ before found after, row.entries = before ++ found :: after
        ∧ (∀ earlier ∈ before, earlier.2.metadata.minimallyEqual first.2.metadata = true)
        ∧ found.2.metadata.minimallyEqual first.2.metadata = false
        ∧ cause = .metadataMismatch (.entry found.1 found.2.metadata first.2.metadata) := by
  rw [assemble_putAll isRow]
  have foreign (found : CellKey × Output group) :
      foreign? first.2.metadata row = some found ↔
        ∃ before after, row.entries = before ++ found :: after
          ∧ (∀ earlier ∈ before, earlier.2.metadata.minimallyEqual first.2.metadata = true)
          ∧ found.2.metadata.minimallyEqual first.2.metadata = false := by
    simp only [foreign?, List.find?_eq_some_iff_append, Bool.not_eq_true', Bool.not_not]
    constructor
    · rintro ⟨differs, before, after, split, same⟩
      exact ⟨before, after, split, same, differs⟩
    · rintro ⟨before, after, split, same, differs⟩
      exact ⟨differs, before, after, split, same⟩
  constructor
  · intro failed
    cases named : foreign? first.2.metadata row with
    | none =>
      rw [named] at failed
      cases failed
    | some found =>
      rw [named] at failed
      cases failed
      obtain ⟨before, after, split, same, differs⟩ := (foreign found).mp named
      exact ⟨before, found, after, split, same, differs, rfl⟩
  · rintro ⟨before, found, after, split, same, differs, rfl⟩
    rw [(foreign found).mpr ⟨before, after, split, same, differs⟩]

end

end StoreBuilder

end Forecast
