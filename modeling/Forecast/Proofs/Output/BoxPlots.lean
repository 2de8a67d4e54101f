import Forecast.Output.BoxPlots
import Forecast.Proofs.Binary64.Order
import Forecast.Proofs.Collection.Traversal
import Mathlib.Data.List.Chain

/-!
# Sorted box plots

The checks of a box plot refuse neighbours that compare as out of order.  No NaN is a probability,
so the probabilities that pass ascend from the first to the last.  Quantiles are compared with their
neighbours only, and no comparison holds of a NaN, so just the quantiles between two NaNs are
sorted, and all of them where there is none.
-/

namespace Forecast

theorem anyNeighbours_eq_false_iff {α : Type} {test : α → α → Bool} {items : List α} :
    anyNeighbours test items = false ↔ items.IsChain fun left right => test left right = false := by
  match items with
  | [] => simp [anyNeighbours]
  | [only] => simp [anyNeighbours]
  | first :: second :: rest =>
    rw [anyNeighbours, Bool.or_eq_false_iff, anyNeighbours_eq_false_iff, List.isChain_cons_cons]

/-! ## Order of numbers -/

namespace Binary64

/-- Every number is at most every later one. -/
def Sorted (numbers : List Binary64) : Prop :=
  numbers.Pairwise fun left right => left.le right = true

/-- Numbers of which none is below the one before are sorted, if none of them is a NaN. -/
theorem Sorted.of_isChain {numbers : List Binary64}
    (ordered : numbers.IsChain fun left right => right.lt left = false)
    (areNumbers : ∀ number ∈ numbers, number.isNaN = false) : Sorted numbers := by
  refine List.isChain_iff_pairwise.mp (ordered.imp_of_mem_imp fun left right inLeft inRight => ?_)
  exact fun notBelow => (le_iff_of_not_lt notBelow).mpr
    ⟨areNumbers left inLeft, areNumbers right inRight⟩

/-- A NaN is in order with nothing, so several sorted numbers have none among them. -/
theorem Sorted.isNaN_eq_false {numbers : List Binary64} (sorted : Sorted numbers)
    (several : 1 < numbers.length) {number : Binary64} (member : number ∈ numbers) :
    number.isNaN = false := by
  match numbers, several with
  | first :: second :: rest, _ =>
    have aboveFirst := (List.pairwise_cons.mp sorted).1
    rcases List.mem_cons.mp member with rfl | later
    · exact (le_iff.mp (aboveFirst second List.mem_cons_self)).1
    · exact (le_iff.mp (aboveFirst number later)).2.1

/-- Numbers of which none is below the one before are sorted just if there is one only or if none of
them is a NaN. -/
theorem sorted_iff_of_isChain {numbers : List Binary64}
    (ordered : numbers.IsChain fun left right => right.lt left = false) :
    Sorted numbers ↔ numbers.length ≤ 1 ∨ ∀ number ∈ numbers, number.isNaN = false := by
  constructor
  · intro sorted
    rcases Nat.lt_or_ge 1 numbers.length with several | few
    · exact .inr fun number => sorted.isNaN_eq_false several
    · exact .inl few
  · rintro (few | areNumbers)
    · match numbers, few with
      | [], _ => exact .nil
      | [only], _ => exact List.pairwise_singleton _ _
    · exact .of_isChain ordered areNumbers

/-- No number is below the one before just if every run without a NaN is sorted. -/
theorem isChain_iff_runs_sorted {numbers : List Binary64} :
    (numbers.IsChain fun left right => right.lt left = false) ↔
      ∀ run, run <:+: numbers → (∀ number ∈ run, number.isNaN = false) → Sorted run := by
  constructor
  · exact fun ordered run isRun => .of_isChain <| ordered.infix isRun
  · intro sorted
    refine (List.isChain_isInfix numbers).imp fun left right isRun => ?_
    rw [← Bool.not_eq_true]
    intro below
    obtain ⟨rightNumber, leftNumber, less⟩ := lt_iff.mp below
    have ascends := sorted [left, right] isRun (by simp [leftNumber, rightNumber])
    have := (le_iff.mp (List.rel_of_pairwise_cons ascends List.mem_cons_self)).2.2
    omega

end Binary64

/-! ## Checks -/

namespace QuantileBox

/-- A box is accepted with one quantile per probability, none of them below the one before. -/
theorem check_eq_ok_iff {box : QuantileBox} {probabilities : Nat} :
    box.check probabilities = .ok () ↔
      box.quantiles.length = probabilities
        ∧ box.quantiles.IsChain fun left right => right.lt left = false := by
  rw [check, ← anyNeighbours_eq_false_iff]
  by_cases counted : box.quantiles.length = probabilities <;>
    cases anyNeighbours (fun left right => right.lt left) box.quantiles <;>
      simp [counted, throw, throwThe, MonadExceptOf.throw, pure, Except.pure]

theorem checkAll_eq_ok_iff {boxes : List QuantileBox} {probabilities : Nat} :
    checkAll probabilities boxes = .ok () ↔ ∀ box ∈ boxes, box.check probabilities = .ok () := by
  induction boxes with
  | nil => simp [checkAll, pure, Except.pure]
  | cons box rest ih => rw [checkAll, check_bind_eq_ok_iff, ih, List.forall_mem_cons]

end QuantileBox

namespace BoxPlots

/-- Probabilities are accepted if they ascend strictly in the unit interval. -/
theorem areProbabilities_iff {probabilities : List Binary64} :
    areProbabilities probabilities = true ↔
      (∀ number ∈ probabilities, Binary64.zero.le number = true ∧ number.le .one = true)
        ∧ probabilities.Pairwise fun left right => left.lt right = true := by
  rw [areProbabilities, Bool.and_eq_true, List.all_eq_true, Bool.not_eq_true',
    anyNeighbours_eq_false_iff, ← List.isChain_iff_pairwise]
  simp only [Bool.and_eq_true]
  refine and_congr_right fun within => ?_
  refine List.IsChain.iff_of_mem_imp fun left right inLeft inRight => ?_
  have leftNumber := (Binary64.le_iff.mp (within left inLeft).2).1
  have rightNumber := (Binary64.le_iff.mp (within right inRight).2).1
  exact ⟨fun notBelow => (Binary64.lt_iff_of_not_le notBelow).mpr ⟨leftNumber, rightNumber⟩,
    Binary64.le_eq_false_of_lt⟩

theorem build_eq_ok_iff {boxes : List QuantileBox} {probabilities : List Binary64}
    {domain range : Dimension} {plots : BoxPlots} :
    build boxes probabilities domain range = .ok plots ↔
      plots = ⟨boxes, probabilities, domain, range⟩
        ∧ probabilities ≠ []
        ∧ areProbabilities probabilities = true
        ∧ ∀ box ∈ boxes, box.check probabilities.length = .ok () := by
  simp only [build, refuse_bind_eq_ok_iff, check_bind_eq_ok_iff, QuantileBox.checkAll_eq_ok_iff,
    List.isEmpty_iff, Bool.not_eq_true', Bool.not_eq_false, pure, Except.pure, Except.ok.injEq]
  constructor
  · rintro ⟨nonempty, ascending, checked, rfl⟩
    exact ⟨rfl, nonempty, ascending, checked⟩
  · rintro ⟨rfl, nonempty, ascending, checked⟩
    exact ⟨nonempty, ascending, checked, rfl⟩

/-- Box plots are accepted if their probabilities ascend strictly in the unit interval and every box
has one quantile per probability, sorted in every run without a NaN.  The quantiles of a box that
is accepted are sorted from the first to the last just if there is one only or none is a NaN. -/
theorem build_sorted {boxes : List QuantileBox} {probabilities : List Binary64}
    {domain range : Dimension} {plots : BoxPlots} :
    (build boxes probabilities domain range = .ok plots ↔
        plots = ⟨boxes, probabilities, domain, range⟩
          ∧ probabilities ≠ []
          ∧ (∀ number ∈ probabilities, Binary64.zero.le number = true ∧ number.le .one = true)
          ∧ (probabilities.Pairwise fun left right => left.lt right = true)
          ∧ ∀ box ∈ boxes, box.quantiles.length = probabilities.length
            ∧ ∀ run, run <:+: box.quantiles → (∀ number ∈ run, number.isNaN = false) →
              Binary64.Sorted run)
      ∧ (build boxes probabilities domain range = .ok plots →
        ∀ box ∈ plots.boxes, Binary64.Sorted box.quantiles ↔
          box.quantiles.length ≤ 1 ∨ ∀ number ∈ box.quantiles, number.isNaN = false) := by
  constructor
  · simp only [build_eq_ok_iff, areProbabilities_iff, QuantileBox.check_eq_ok_iff,
      Binary64.isChain_iff_runs_sorted, and_assoc]
  · intro built box member
    obtain ⟨rfl, -, -, checked⟩ := build_eq_ok_iff.mp built
    exact Binary64.sorted_iff_of_isChain (QuantileBox.check_eq_ok_iff.mp (checked box member)).2

/-- A box from negative infinity up to two equal quantiles is accepted, and is sorted. -/
theorem build_sorted_equal :
    ∃ plots, build [⟨.one, [.negativeInfinity, .zero, .zero]⟩] [.zero, ⟨0x3FE0000000000000⟩, .one]
        .observedValue .forecastError = .ok plots
      ∧ ∀ box ∈ plots.boxes, Binary64.Sorted box.quantiles := by
  obtain ⟨plots, built⟩ : ∃ plots,
      build [⟨.one, [.negativeInfinity, .zero, .zero]⟩] [.zero, ⟨0x3FE0000000000000⟩, .one]
        .observedValue .forecastError = .ok plots := ⟨_, rfl⟩
  refine ⟨plots, built, fun box member => (build_sorted.2 built box member).mpr (.inr ?_)⟩
  obtain ⟨rfl, -⟩ := build_sorted.1.mp built
  obtain rfl := List.mem_singleton.mp member
  decide

/-- Quantiles that descend across a NaN are accepted. -/
theorem unsorted_accepted :
    ∃ plots, build [⟨.one, [.one, .nan, .zero]⟩] [.zero, ⟨0x3FE0000000000000⟩, .one]
        .observedValue .forecastError = .ok plots
      ∧ ∃ box ∈ plots.boxes, ¬Binary64.Sorted box.quantiles := by
  refine ⟨_, rfl, _, List.mem_singleton_self _, fun sorted => ?_⟩
  exact absurd (List.rel_of_pairwise_cons sorted (List.mem_cons_of_mem _ List.mem_cons_self))
    (by decide)

end BoxPlots

end Forecast
