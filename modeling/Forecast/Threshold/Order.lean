import Forecast.Threshold.Basic

/-!
# Order of thresholds

Numbers are ordered by the rank of their patterns, and thresholds by their parts in turn.  Which
parts are present is compared before any of them, so that parts need comparing only where both
thresholds have them.
-/

namespace Forecast

instance : Std.TransOrd Binary64 :=
  inferInstanceAs (Std.TransCmp (compareOn Binary64.rank))

instance : Std.LawfulEqOrd Binary64 where
  eq_of_compare equal := Binary64.rank_inj (Std.LawfulEqOrd.eq_of_compare (α := Int) equal)

instance : Std.TransOrd Operator :=
  inferInstanceAs (Std.TransCmp (compareOn Operator.rank))

instance : Std.LawfulEqOrd Operator where
  eq_of_compare equal := Operator.rank_inj (Std.LawfulEqOrd.eq_of_compare (α := Nat) equal)

namespace Bounds

theorem compare_eq (left right : Bounds) :
    Bounds.compare left right
      = (Ord.compare left.lower right.lower).then (Ord.compare left.upper right.upper) := by
  obtain ⟨_, leftUpper⟩ := left
  obtain ⟨_, rightUpper⟩ := right
  cases leftUpper <;> cases rightUpper <;> rfl

instance : Std.TransOrd Bounds := by
  have lexicographic : (Ord.compare : Bounds → Bounds → Ordering)
      = compareLex (compareOn Bounds.lower) (compareOn Bounds.upper) := by
    funext left right
    exact compare_eq left right
  rw [Std.TransOrd, lexicographic]
  infer_instance

instance : Std.LawfulEqOrd Bounds where
  eq_of_compare {left right} equal := by
    change Bounds.compare left right = .eq at equal
    simp only [compare_eq, Ordering.then_eq_eq, Std.compare_eq_iff_eq] at equal
    cases left
    cases right
    simpa using equal

end Bounds

namespace Threshold

/-- Parts of which both or none are present compare like optional ones. -/
theorem comparePresent_eq {α : Type} [Ord α] {left right : Option α}
    (present : Ord.compare left.isSome right.isSome = .eq) :
    comparePresent Ord.compare left right = Ord.compare left right := by
  cases left <;> cases right <;> first | rfl | cases present

/-- The parts in turn, after which of them are present. -/
theorem compare_eq (left right : Threshold) :
    Threshold.compare left right =
      ((Ord.compare left.operator right.operator).then <|
      (Ord.compare left.values.isSome right.values.isSome).then <|
      (Ord.compare left.probabilities.isSome right.probabilities.isSome).then <|
      (Ord.compare left.label.isSome right.label.isSome).then <|
      (Ord.compare left.values right.values).then <|
      (Ord.compare left.probabilities right.probabilities).then <|
      Ord.compare left.label right.label) := by
  have after {first second third : Ordering} (same : first = .eq → second = third) :
      first.then second = first.then third := by
    cases first <;> simp_all
  rw [Threshold.compare]
  refine after fun _ => after fun values => after fun probabilities => after fun label => ?_
  have valuesSame : comparePresent Bounds.compare left.values right.values
      = Ord.compare left.values right.values := comparePresent_eq values
  have probabilitiesSame : comparePresent Bounds.compare left.probabilities right.probabilities
      = Ord.compare left.probabilities right.probabilities := comparePresent_eq probabilities
  rw [valuesSame, probabilitiesSame, comparePresent_eq label]

instance : Std.TransOrd Threshold := by
  have lexicographic : (Ord.compare : Threshold → Threshold → Ordering)
      = (compareLex (compareOn operator) <| compareLex (compareOn fun it => it.values.isSome) <|
        compareLex (compareOn fun it => it.probabilities.isSome) <|
        compareLex (compareOn fun it => it.label.isSome) <| compareLex (compareOn values) <|
        compareLex (compareOn probabilities) (compareOn label)) := by
    funext left right
    exact compare_eq left right
  rw [Std.TransOrd, lexicographic]
  infer_instance

instance : Std.LawfulEqOrd Threshold where
  eq_of_compare {left right} equal := by
    change Threshold.compare left right = .eq at equal
    simp only [compare_eq, Ordering.then_eq_eq, Std.compare_eq_iff_eq] at equal
    obtain ⟨sameOperator, -, -, -, sameValues, sameProbabilities, sameLabel⟩ := equal
    cases left
    cases right
    simp_all

end Threshold

end Forecast
