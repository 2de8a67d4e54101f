import Forecast.Proofs.Binary64.Order
import Forecast.Threshold.Text
import Forecast.Threshold.Validation

/-!
# Thresholds of all data

A threshold counts as the one of all data if its value or its probability is negative infinity, but
a probability is not tested beside a value.  So all finite numbers pass just when the value, where
there is one, is negative infinity.
-/

namespace Forecast.Threshold

theorem isAllData_iff {threshold : Threshold} :
    threshold.isAllData = true ↔
      threshold.operator = .greater
        ∧ (threshold.lowerValue? = some Binary64.negativeInfinity
          ∨ threshold.lowerProbability? = some Binary64.negativeInfinity) := by
  have lowest (bound : Option Binary64) : bound.any (·.same Binary64.negativeInfinity) = true ↔
      bound = some Binary64.negativeInfinity := by
    cases bound <;> simp
  rw [isAllData, Bool.and_eq_true, Bool.or_eq_true, lowest, lowest, beq_iff_eq]

/-- What is above a bound is above the value, and above the probability only where there is no
value. -/
theorem test_of_greater {threshold : Threshold} (greater : threshold.operator = .greater)
    (number : Binary64) :
    threshold.test number
      = (threshold.lowerValue?.or threshold.lowerProbability?).any (·.lt number) := by
  rw [test, greater, lowerValue?, lowerProbability?]
  cases threshold.values <;> cases threshold.probabilities <;> rfl

/-- A threshold that counts as the one of all data admits every finite number just when its value is
negative infinity or missing.  Beside another value it admits what is above this value. -/
theorem all_finite_pass_iff {threshold : Threshold} (allData : threshold.isAllData = true) :
    ((∀ number : Binary64, number.isFinite = true → threshold.test number = true) ↔
        ∀ value ∈ threshold.lowerValue?, value = Binary64.negativeInfinity)
      ∧ ∀ value ∈ threshold.lowerValue?, ∀ number, threshold.test number = value.lt number := by
  obtain ⟨greater, lowest⟩ := isAllData_iff.mp allData
  simp only [test_of_greater greater]
  cases isValue : threshold.lowerValue? with
  | none =>
    rw [isValue] at lowest
    rw [lowest.resolve_left (Option.some_ne_none _).symm]
    simpa using Binary64.forall_isFinite_lt_iff.mpr rfl
  | some value => simpa using Binary64.forall_isFinite_lt_iff

/-- The threshold of all data and an infinite probability without a value admit all finite numbers,
also as they are built. -/
theorem all_finite_pass_iff_infinite :
    (∀ number : Binary64, number.isFinite = true → allData.test number = true)
      ∧ ∃ threshold, ofProbability .greater .negativeInfinity = .ok threshold
        ∧ ∀ number : Binary64, number.isFinite = true → threshold.test number = true := by
  refine ⟨(all_finite_pass_iff rfl).1.mpr ?_, _, rfl, (all_finite_pass_iff rfl).1.mpr ?_⟩
  · rintro _ ⟨⟩
    rfl
  · rintro _ ⟨⟩

/-- A quantile above one with an infinite probability is shown as all data, and does not admit
zero. -/
theorem allData_rejects :
    ∃ threshold, ofQuantile .greater .one .negativeInfinity = .ok threshold
      ∧ threshold.isAllData = true ∧ threshold.text = "All data"
      ∧ Binary64.zero.isFinite = true ∧ threshold.test .zero = false :=
  ⟨_, rfl, rfl, rfl, rfl, rfl⟩

end Forecast.Threshold
