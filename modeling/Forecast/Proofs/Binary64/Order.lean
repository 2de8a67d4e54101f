import Forecast.Binary64.Basic
import Mathlib.Data.Nat.Basic

/-!
# Numeric order of numbers

Positions on the number line tell all numbers apart but the two zeros.  The infinities stand at its
ends: negative infinity is the only number that is less than all finite ones.  A comparison fails
where a side is a NaN, so that the failure of one says nothing about the other.
-/

namespace Forecast.Binary64

theorem lt_iff {left right : Binary64} :
    left.lt right = true ↔
      left.isNaN = false ∧ right.isNaN = false ∧ left.position < right.position := by
  simp [lt, and_assoc]

theorem le_iff {left right : Binary64} :
    left.le right = true ↔
      left.isNaN = false ∧ right.isNaN = false ∧ left.position ≤ right.position := by
  simp [le, and_assoc]

theorem same_iff {left right : Binary64} :
    left.same right = true ↔
      left.isNaN = false ∧ right.isNaN = false ∧ left.position = right.position := by
  simp [same, and_assoc]

theorem le_of_le_of_lt {first second third : Binary64} (below : first.le second = true)
    (less : second.lt third = true) : first.le third = true := by
  rw [le_iff] at below ⊢
  rw [lt_iff] at less
  exact ⟨below.1, less.2.1, by omega⟩

theorem lt_trans {first second third : Binary64} (below : first.lt second = true)
    (above : second.lt third = true) : first.lt third = true := by
  rw [lt_iff] at *
  exact ⟨below.1, above.2.1, by omega⟩

theorem le_trans {first second third : Binary64} (below : first.le second = true)
    (above : second.le third = true) : first.le third = true := by
  rw [le_iff] at *
  exact ⟨below.1, above.2.1, by omega⟩

instance : Trans (fun left right : Binary64 => left.lt right = true)
    (fun left right => left.lt right = true) (fun left right => left.lt right = true) := ⟨lt_trans⟩

instance : Trans (fun left right : Binary64 => left.le right = true)
    (fun left right => left.le right = true) (fun left right => left.le right = true) := ⟨le_trans⟩

theorem le_eq_false_of_lt {left right : Binary64} (less : left.lt right = true) :
    right.le left = false := by
  rw [← Bool.not_eq_true, le_iff]
  rw [lt_iff] at less
  omega

/-- What is not at most a number is above it, unless one of them is a NaN. -/
theorem lt_iff_of_not_le {left right : Binary64} (notBelow : right.le left = false) :
    left.lt right = true ↔ left.isNaN = false ∧ right.isNaN = false := by
  rw [lt_iff, ← and_assoc, and_iff_left_iff_imp]
  rintro ⟨leftNumber, rightNumber⟩
  rw [← Bool.not_eq_true, le_iff] at notBelow
  exact Int.not_le.mp fun below => notBelow ⟨rightNumber, leftNumber, below⟩

theorem le_iff_of_not_lt {left right : Binary64} (notAbove : right.lt left = false) :
    left.le right = true ↔ left.isNaN = false ∧ right.isNaN = false := by
  rw [le_iff, ← and_assoc, and_iff_left_iff_imp]
  rintro ⟨leftNumber, rightNumber⟩
  rw [← Bool.not_eq_true, lt_iff] at notAbove
  exact Int.not_lt.mp fun above => notAbove ⟨rightNumber, leftNumber, above⟩

theorem natAbs_position (number : Binary64) : number.position.natAbs = number.magnitude := by
  rw [position]
  split <;> omega

/-- A position other than the origin belongs to one number. -/
theorem position_inj {left right : Binary64} (nonzero : right.magnitude ≠ 0)
    (positions : left.position = right.position) : left = right := by
  have magnitudes : left.magnitude = right.magnitude := by
    rw [← natAbs_position, positions, natAbs_position]
  apply rank_inj
  rw [position, position] at positions
  rw [rank, rank]
  split <;> split <;> rename_i leftSign rightSign <;>
    simp only [leftSign, rightSign, if_true, Bool.false_eq_true, if_false] at positions <;> omega

theorem same_iff_eq {number other : Binary64} (isNumber : other.isNaN = false)
    (nonzero : other.magnitude ≠ 0) : number.same other = true ↔ number = other := by
  rw [same_iff]
  constructor
  · rintro ⟨-, -, positions⟩
    exact position_inj nonzero positions
  · rintro rfl
    exact ⟨isNumber, isNumber, rfl⟩

@[simp]
theorem same_negativeInfinity_iff {number : Binary64} :
    number.same negativeInfinity = true ↔ number = negativeInfinity :=
  same_iff_eq (by decide) (by decide)

@[simp]
theorem same_infinity_iff {number : Binary64} :
    number.same infinity = true ↔ number = infinity :=
  same_iff_eq (by decide) (by decide)

/-- The least finite number. -/
def leastFinite : Binary64 := ⟨0xFFEFFFFFFFFFFFFF⟩

/-- Nothing but negative infinity lies below all finite numbers. -/
theorem forall_isFinite_lt_iff {bound : Binary64} :
    (∀ number : Binary64, number.isFinite = true → bound.lt number = true) ↔
      bound = negativeInfinity := by
  constructor
  · intro below
    obtain ⟨isNumber, -, less⟩ := lt_iff.mp (below leastFinite (by decide))
    have magnitude : bound.magnitude ≤ infinite := by simpa [isNaN] using isNumber
    have least : leastFinite.position = 1 - infinite := by decide
    have atEnd : bound.position = negativeInfinity.position := by
      have last : negativeInfinity.position = -infinite := by decide
      have farthest := bound.natAbs_position
      omega
    exact position_inj (by decide) atEnd
  · rintro rfl number finite
    refine lt_iff.mpr ⟨by decide, isNaN_eq_false_of_isFinite finite, ?_⟩
    have last : negativeInfinity.position = -infinite := by decide
    have within : number.magnitude < infinite := of_decide_eq_true finite
    have distance := number.natAbs_position
    omega

end Forecast.Binary64
