import Forecast.Threshold.Order
import Forecast.Threshold.Hashing

/-!
# Comparison of thresholds

Comparing thresholds follows the laws of a total order, whatever the patterns of their bounds, and
takes no two thresholds for equal that differ in a part.  Numbers compare in the total order of
patterns, which tells zeros apart and has a place for every NaN.  Equal thresholds feed a hasher
alike; unequal ones do so only where one reads the same bounds as values and the other as
probabilities.
-/

namespace Forecast

/-- The laws of a total order in which exactly values with the same parts are equal. -/
structure LawfulComparison {α : Type} (compare : α → α → Ordering) (SameParts : α → α → Prop) :
    Prop where
  /-- Everything equals itself. -/
  self : ∀ value, compare value value = .eq
  /-- Exchanging the sides reverses the result. -/
  reverse : ∀ left right, compare right left = (compare left right).swap
  /-- What is at most something is at most everything that this is at most. -/
  trans : ∀ first second third, (compare first second).isLE → (compare second third).isLE →
    (compare first third).isLE
  /-- Nothing but the parts decides equality. -/
  eq_iff : ∀ left right, compare left right = .eq ↔ SameParts left right

theorem LawfulComparison.of_ord {α : Type} [Ord α] [Std.TransOrd α] [Std.LawfulEqOrd α]
    {SameParts : α → α → Prop} (parts : ∀ left right, left = right ↔ SameParts left right) :
    @LawfulComparison α compare SameParts where
  self _ := Std.ReflOrd.compare_self
  reverse _ _ := Std.OrientedOrd.eq_swap
  trans _ _ _ := Std.TransOrd.isLE_trans
  eq_iff left right := Std.compare_eq_iff_eq.trans (parts left right)

/-! ## Numbers -/

namespace Binary64

/-- The total order of patterns: negative ones come before all others, the larger their magnitude
the earlier, and the others follow in the order of magnitudes. -/
def Precedes (left right : Binary64) : Prop :=
  match left.isNegative, right.isNegative with
  | true, true => right.magnitude < left.magnitude
  | true, false => True
  | false, true => False
  | false, false => left.magnitude < right.magnitude

theorem compareTotal_eq_lt_iff {left right : Binary64} :
    left.compareTotal right = .lt ↔ left.Precedes right := by
  rw [compareTotal, Int.compare_eq_lt, rank, rank, Precedes]
  cases left.isNegative <;> cases right.isNegative <;>
    simp only [if_true, Bool.false_eq_true, if_false, iff_true, iff_false] <;> omega

/-- The zeros are told apart. -/
example : Precedes ⟨0x8000000000000000⟩ zero := trivial

end Binary64

/-! ## Thresholds -/

/-- Optional bounds are known by the patterns of their bounds. -/
theorem Bounds.option_eq_iff {left right : Option Bounds} :
    left = right ↔
      (left.map lower).map Binary64.bits = (right.map lower).map Binary64.bits
        ∧ (left.bind upper).map Binary64.bits = (right.bind upper).map Binary64.bits := by
  have bits_inj : Function.Injective Binary64.bits := by
    rintro ⟨_⟩ ⟨_⟩ rfl
    rfl
  rw [(Option.map_injective bits_inj).eq_iff, (Option.map_injective bits_inj).eq_iff]
  cases left with
  | none => cases right <;> simp
  | some left =>
    cases right with
    | none => simp
    | some right =>
      cases left
      cases right
      simp

namespace Threshold

/-- The same condition, patterns of bounds and label. -/
def SameParts (left right : Threshold) : Prop :=
  left.operator = right.operator
    ∧ left.lowerValue?.map Binary64.bits = right.lowerValue?.map Binary64.bits
    ∧ left.upperValue?.map Binary64.bits = right.upperValue?.map Binary64.bits
    ∧ left.lowerProbability?.map Binary64.bits = right.lowerProbability?.map Binary64.bits
    ∧ left.upperProbability?.map Binary64.bits = right.upperProbability?.map Binary64.bits
    ∧ left.label = right.label

theorem eq_iff_sameParts (left right : Threshold) : left = right ↔ left.SameParts right := by
  have parts : left = right ↔ left.operator = right.operator ∧ left.values = right.values
      ∧ left.probabilities = right.probabilities ∧ left.label = right.label := by
    cases left
    cases right
    simp
  rw [parts, Bounds.option_eq_iff, Bounds.option_eq_iff, and_assoc, and_assoc]
  rfl

theorem lawfulComparison : LawfulComparison Threshold.compare SameParts :=
  .of_ord eq_iff_sameParts

/-! ## Hashing -/

/-- The bounds of a threshold, values first. -/
def bounds (threshold : Threshold) : List Bounds :=
  threshold.values.toList ++ threshold.probabilities.toList

theorem hashWrites_eq (threshold : Threshold) :
    threshold.hashWrites
      = .variant threshold.operator.rank :: (threshold.bounds.flatMap Bounds.hashWrites
        ++ HashWrite.optional (fun label => [.text label]) threshold.label) := by
  have written (part : Option Bounds) :
      part.elim [] Bounds.hashWrites = part.toList.flatMap Bounds.hashWrites := by
    cases part <;> simp
  rw [hashWrites, written, written, bounds, List.flatMap_append]

private theorem optional_append_inj {α : Type} {writes : α → HashWrite}
    (injective : Function.Injective writes) {left right : Option α} {after other : List HashWrite} :
    HashWrite.optional (fun part => [writes part]) left ++ after
        = HashWrite.optional (fun part => [writes part]) right ++ other ↔
      left = right ∧ after = other := by
  cases left <;> cases right <;> simp [HashWrite.optional, injective.eq_iff]

private theorem bounds_append_inj {left right : Bounds} {after other : List HashWrite} :
    left.hashWrites ++ after = right.hashWrites ++ other ↔ left = right ∧ after = other := by
  have words : Function.Injective fun number : Binary64 => HashWrite.word number.bits := by
    rintro ⟨_⟩ ⟨_⟩ same
    cases same
    rfl
  obtain ⟨lower, upper⟩ := left
  obtain ⟨otherLower, otherUpper⟩ := right
  rw [Bounds.hashWrites, Bounds.hashWrites, List.cons_append, List.cons_append, List.cons.injEq,
    optional_append_inj words, Bounds.mk.injEq, and_assoc]
  exact and_congr_left fun _ => words.eq_iff

/-- Bounds begin with a word and a label does not, so it can be told where bounds end. -/
private theorem writes_inj {first second : List Bounds} {label other : Option String}
    (same : first.flatMap Bounds.hashWrites ++ HashWrite.optional (fun label => [.text label]) label
      = second.flatMap Bounds.hashWrites
        ++ HashWrite.optional (fun label => [.text label]) other) :
    first = second ∧ label = other := by
  induction first generalizing second with
  | nil =>
    cases second with
    | nil =>
      have texts : Function.Injective HashWrite.text := fun _ _ => HashWrite.text.inj
      rw [← List.append_nil (HashWrite.optional _ label),
        ← List.append_nil (HashWrite.optional _ other)] at same
      exact ⟨rfl, ((optional_append_inj texts).mp same).1⟩
    | cons => cases label <;> cases same
  | cons here rest ih =>
    cases second with
    | nil => cases other <;> cases same
    | cons there others =>
      rw [List.flatMap_cons, List.flatMap_cons, List.append_assoc, List.append_assoc,
        bounds_append_inj] at same
      obtain ⟨rfl, rests⟩ := same
      obtain ⟨rfl, labels⟩ := ih rests
      exact ⟨rfl, labels⟩

/-- Thresholds write alike just when they have the same condition, bounds and label; what the bounds
are read as is not written. -/
theorem hashWrites_eq_iff {left right : Threshold} :
    left.hashWrites = right.hashWrites ↔
      left.operator = right.operator ∧ left.bounds = right.bounds ∧ left.label = right.label := by
  rw [hashWrites_eq, hashWrites_eq, List.cons.injEq, HashWrite.variant.injEq]
  constructor
  · rintro ⟨ranks, writes⟩
    exact ⟨Operator.rank_inj ranks, writes_inj writes⟩
  · rintro ⟨operators, bounds, labels⟩
    rw [operators, bounds, labels]
    exact ⟨rfl, rfl⟩

/-- Bounds of values and of probabilities are hashed alike. -/
example : (⟨.less, some ⟨.one, none⟩, none, none⟩ : Threshold).hashWrites
    = (⟨.less, none, some ⟨.one, none⟩, none⟩ : Threshold).hashWrites := rfl

/-- Thresholds that compare equal feed every hasher alike. -/
theorem hashInto_eq_of_compare {left right : Threshold} (equal : left.compare right = .eq)
    {σ : Type} (write : σ → HashWrite → σ) (state : σ) :
    left.hashInto write state = right.hashInto write state := by
  have same : left.hashWrites = right.hashWrites := by
    obtain rfl := (eq_iff_sameParts left right).mpr ((lawfulComparison.eq_iff left right).mp equal)
    rfl
  rw [hashInto, hashInto, same]

end Threshold

end Forecast
