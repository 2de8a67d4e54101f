import Forecast.Output.Metadata
import Forecast.Threshold.Order

/-!
# Order of cells and metrics

Cells are ordered by window and threshold, and metrics with their components as they are listed, a
metric as a whole first.  Only equal ones compare equal.  Named axes are ordered as they are listed.
-/

namespace Forecast

namespace CellKey

instance : Std.TransOrd CellKey :=
  inferInstanceAs (Std.TransCmp (compareLex (compareOn window) (compareOn threshold)))

instance : Std.LawfulEqOrd CellKey where
  eq_of_compare {left right} equal := by
    change (Ord.compare left.window right.window).then
      (Ord.compare left.threshold right.threshold) = .eq at equal
    rw [Ordering.then_eq_eq, Std.compare_eq_iff_eq, Std.compare_eq_iff_eq] at equal
    cases left
    cases right
    simpa using equal

end CellKey

instance : Std.TransOrd Metric :=
  inferInstanceAs (Std.TransCmp (compareOn Metric.ctorIdx))

instance : Std.LawfulEqOrd Metric where
  eq_of_compare equal := Metric.ctorIdx_inj (Std.LawfulEqOrd.eq_of_compare (α := Nat) equal)

instance : Std.TransOrd Component :=
  inferInstanceAs (Std.TransCmp (compareOn Component.ctorIdx))

instance : Std.LawfulEqOrd Component where
  eq_of_compare equal := Component.ctorIdx_inj (Std.LawfulEqOrd.eq_of_compare (α := Nat) equal)

instance : Std.TransOrd Dimension :=
  inferInstanceAs (Std.TransCmp (compareOn Dimension.ctorIdx))

namespace MetricKey

theorem compare_eq (left right : MetricKey) :
    MetricKey.compare left right
      = (Ord.compare left.metric right.metric).then
        (Ord.compare left.component right.component) := by
  obtain ⟨_, leftComponent⟩ := left
  obtain ⟨_, rightComponent⟩ := right
  cases leftComponent <;> cases rightComponent <;> rfl

instance : Std.TransOrd MetricKey := by
  have lexicographic : (Ord.compare : MetricKey → MetricKey → Ordering)
      = compareLex (compareOn metric) (compareOn component) := by
    funext left right
    exact compare_eq left right
  rw [Std.TransOrd, lexicographic]
  infer_instance

instance : Std.LawfulEqOrd MetricKey where
  eq_of_compare {left right} equal := by
    change MetricKey.compare left right = .eq at equal
    rw [compare_eq, Ordering.then_eq_eq, Std.compare_eq_iff_eq, Std.compare_eq_iff_eq] at equal
    cases left
    cases right
    simpa using equal

end MetricKey

end Forecast
