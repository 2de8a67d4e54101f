import Forecast.Proofs.Collection.Traversal
import Forecast.Proofs.Output.Store
import Forecast.Proofs.Threshold.Comparison

/-!
# Comparison of cells

Cells compare by the bounds of their windows in turn, then by their thresholds, and follow the laws
of a total order as these do.  So a store finds every output again at the cell where it was put, and
at no cell that differs from it in a part.
-/

namespace Forecast

variable {group : OutputGroup}

namespace CellKey

/-- The same bounds of the window and the same parts of the threshold. -/
def SameParts (left right : CellKey) : Prop :=
  left.window.earliestReference = right.window.earliestReference
    ∧ left.window.latestReference = right.window.latestReference
    ∧ left.window.earliestValid = right.window.earliestValid
    ∧ left.window.latestValid = right.window.latestValid
    ∧ left.window.earliestLead = right.window.earliestLead
    ∧ left.window.latestLead = right.window.latestLead
    ∧ left.threshold.SameParts right.threshold

theorem eq_iff_sameParts (left right : CellKey) : left = right ↔ left.SameParts right := by
  rw [SameParts, ← Threshold.eq_iff_sameParts]
  obtain ⟨⟨_, _, _, _, _, _⟩, _⟩ := left
  obtain ⟨⟨_, _, _, _, _, _⟩, _⟩ := right
  simp only [CellKey.mk.injEq, TimeWindow.mk.injEq, and_assoc]

theorem lawfulComparison : LawfulComparison CellKey.compare SameParts :=
  .of_ord eq_iff_sameParts

theorem compare_eq (left right : CellKey) :
    left.compare right =
      ((Ord.compare left.window.earliestReference right.window.earliestReference).then <|
      (Ord.compare left.window.latestReference right.window.latestReference).then <|
      (Ord.compare left.window.earliestValid right.window.earliestValid).then <|
      (Ord.compare left.window.latestValid right.window.latestValid).then <|
      (Ord.compare left.window.earliestLead right.window.earliestLead).then <|
      (Ord.compare left.window.latestLead right.window.latestLead).then <|
      left.threshold.compare right.threshold) := by
  simp only [CellKey.compare, TimeWindow.compare, Ordering.then_assoc]

end CellKey

/-- The output is the one that was put last at the cell. -/
def LastPut (puts : List (CellKey × Output group)) (key : CellKey) (output : Output group) : Prop :=
  ∃ before other after, puts = before ++ (other, output) :: after ∧ other.SameParts key
    ∧ ∀ later ∈ after, ¬later.1.SameParts key

theorem lastPut_iff {puts : List (CellKey × Output group)} {key : CellKey} {output : Output group} :
    LastPut puts key output ↔
      (puts.reverse.find? fun put => put.1 = key).map Prod.snd = some output := by
  simp only [LastPut, ← CellKey.eq_iff_sameParts, Option.map_eq_some_iff,
    List.find?_eq_some_iff_append, Prod.exists, exists_eq_right, decide_eq_true_eq]
  constructor
  · rintro ⟨before, other, after, rfl, same, last⟩
    refine ⟨other, same, after.reverse, before.reverse, by simp, fun later member => ?_⟩
    simpa using last later (List.mem_reverse.mp member)
  · rintro ⟨other, same, after, before, split, last⟩
    refine ⟨before.reverse, other, after.reverse, ?_, same, fun later member => ?_⟩
    · rw [← List.reverse_reverse puts, split]
      simp
    · simpa using last later (List.mem_reverse.mp member)

/-- An output is found where it was put last, and nowhere else. -/
theorem StoreBuilder.get?_putAll_eq_some_iff {puts : List (CellKey × Output group)} {key : CellKey}
    {output : Output group} :
    (StoreBuilder.putAll {} puts).entries.get? key = some output ↔ LastPut puts key output := by
  rw [lastPut_iff, putAll_eq, SortedMap.get?_insertAll, SortedMap.get?_empty, Option.or_none]

theorem StoreBuilder.entries_of_build {builder : StoreBuilder group} {store : Store group}
    (built : builder.build = .ok store) : store.entries = builder.entries := by
  rw [build, mapError_eq_ok_iff, assemble_eq_ok_iff] at built
  obtain ⟨_, -, -, -, rfl⟩ := built
  rfl

/-- Thresholds and cells compare lawfully, and are equal only if all their parts are.  Numbers
compare by their patterns.  Equal thresholds feed every hasher alike, and others write alike only if
the same bounds are values of the one and probabilities of the other.  A store keeps apart what is
put at cells that differ in any part. -/
theorem CellKey.comparison_laws :
    (∀ left right : Binary64, left.compareTotal right = .lt ↔ left.Precedes right)
      ∧ LawfulComparison Threshold.compare Threshold.SameParts
      ∧ (∀ left right : Threshold, left.compare right = .eq →
        ∀ (σ : Type) (write : σ → HashWrite → σ) (state : σ),
          left.hashInto write state = right.hashInto write state)
      ∧ (∀ left right : Threshold, left.hashWrites = right.hashWrites ↔
        left.operator = right.operator ∧ left.bounds = right.bounds ∧ left.label = right.label)
      ∧ LawfulComparison CellKey.compare CellKey.SameParts
      ∧ (∀ left right : CellKey, left.compare right =
        ((Ord.compare left.window.earliestReference right.window.earliestReference).then <|
        (Ord.compare left.window.latestReference right.window.latestReference).then <|
        (Ord.compare left.window.earliestValid right.window.earliestValid).then <|
        (Ord.compare left.window.latestValid right.window.latestValid).then <|
        (Ord.compare left.window.earliestLead right.window.earliestLead).then <|
        (Ord.compare left.window.latestLead right.window.latestLead).then <|
        left.threshold.compare right.threshold))
      ∧ ∀ (group : OutputGroup) (puts : List (CellKey × Output group))
          (metadata : Option OutputMetadata) (key : CellKey) (output : Output group),
        let builder := { StoreBuilder.putAll {} puts with metadata }
        (builder.entries.get? key = some output ↔ LastPut puts key output)
          ∧ ∀ store, builder.build = .ok store →
            (store.get? key = some output ↔ LastPut puts key output) := by
  refine ⟨fun _ _ => Binary64.compareTotal_eq_lt_iff, Threshold.lawfulComparison,
    fun left right equal σ write state => Threshold.hashInto_eq_of_compare equal write state,
    fun _ _ => Threshold.hashWrites_eq_iff, lawfulComparison, compare_eq,
    fun group puts metadata key output => ?_⟩
  refine ⟨StoreBuilder.get?_putAll_eq_some_iff, fun store built => ?_⟩
  rw [Store.get?, StoreBuilder.entries_of_build built]
  exact StoreBuilder.get?_putAll_eq_some_iff

/-- Three cells that differ only in a bound: negative zero, zero and a NaN. -/
theorem CellKey.comparison_laws_signed_zero :
    let below (bound : Binary64) : CellKey := ⟨.unbounded, ⟨.less, some ⟨bound, none⟩, none, none⟩⟩
    let output (value : Binary64) : Output .doubleScore := ⟨value, { metric := .meanError }⟩
    let first := below ⟨0x8000000000000000⟩
    let second := below Binary64.zero
    let third := below Binary64.nan
    let puts := [(second, output Binary64.one), (third, output Binary64.nan),
      (first, output Binary64.zero), (second, output Binary64.infinity)]
    (first.compare second).isLE ∧ (second.compare third).isLE ∧ (first.compare third).isLE
      ∧ third.compare third = .eq
      ∧ third.threshold.hashInto (fun writes write => writes ++ [write]) []
        = [.variant 0, .word Binary64.nan.bits, .variant 0, .variant 0]
      ∧ ∃ store, (StoreBuilder.putAll {} puts).build = .ok store
        ∧ store.get? first = some (output Binary64.zero)
        ∧ store.get? second = some (output Binary64.infinity)
        ∧ store.get? third = some (output Binary64.nan) := by
  intro below output first second third puts
  obtain ⟨-, -, hashes, -, laws, -, stores⟩ := CellKey.comparison_laws
  have firstSecond : (first.compare second).isLE := rfl
  have secondThird : (second.compare third).isLE := rfl
  have equal : third.threshold.compare third.threshold = .eq := rfl
  have built : ∃ store, (StoreBuilder.putAll {} puts).build = .ok store := ⟨_, rfl⟩
  obtain ⟨store, isStore⟩ := built
  have found {key : CellKey} {value : Binary64}
      (last : (puts.reverse.find? fun put => put.1 = key).map Prod.snd = some (output value)) :
      store.get? key = some (output value) :=
    ((stores .doubleScore puts none key (output value)).2 store isStore).mpr (lastPut_iff.mpr last)
  exact ⟨firstSecond, secondThird, laws.trans _ _ _ firstSecond secondThird, laws.self third,
    (hashes _ _ equal _ _ _).trans rfl, store, isStore, found rfl, found rfl, found rfl⟩

end Forecast
