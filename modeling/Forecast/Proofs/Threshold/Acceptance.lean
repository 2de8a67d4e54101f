import Forecast.Proofs.Binary64.Order
import Forecast.Proofs.Collection.Traversal
import Forecast.Proofs.Threshold.Comparison
import Forecast.Threshold.Validation

/-!
# Accepted thresholds

The checks of a threshold reject comparisons that hold of bad bounds.  No comparison holds of a NaN,
and an upper probability is compared with one and with the lower probability only, which may be
negative infinity.  So what is accepted is well formed just when neither happens, which a label
rules out.
-/

namespace Forecast.Threshold

/-- Thresholds that a constructor gives out. -/
inductive Produced : Threshold → Prop where
  | build {operator : Operator} {values probabilities : Option Bounds} {label : Option String}
      {threshold : Threshold}
      (built : Threshold.build operator values probabilities label = .ok threshold) :
      Produced threshold
  | withLabel {threshold labelled : Threshold} (before : Produced threshold) {label : String}
      (given : threshold.withLabel label = .ok labelled) : Produced labelled
  | allData : Produced .allData

/-- What the checks do reject. -/
structure Shaped (threshold : Threshold) : Prop where
  /-- There are bounds. -/
  present : threshold.values.isSome ∨ threshold.probabilities.isSome
  /-- A lower probability is a probability or negative infinity. -/
  lowerProbability : ∀ lower ∈ threshold.lowerProbability?,
    lower = Binary64.negativeInfinity ∨ isProbability lower = true
  /-- There is an upper bound just where the condition asks for one. -/
  upper : ∀ bounds ∈ threshold.bounds, bounds.upper.isSome ↔ threshold.operator = .between
  /-- Labelled thresholds are finite. -/
  finite : threshold.label.isSome → ∀ bounds ∈ threshold.bounds,
    bounds.lower.isFinite = true ∧ ∀ upper ∈ bounds.upper, upper.isFinite = true

/-- All that the checks are for. -/
structure WellFormed (threshold : Threshold) : Prop extends threshold.Shaped where
  /-- An upper probability is a probability or infinity. -/
  upperProbability : ∀ upper ∈ threshold.upperProbability?,
    upper = Binary64.infinity ∨ isProbability upper = true
  /-- An upper bound is above the lower one. -/
  ordered : ∀ bounds ∈ threshold.bounds, ∀ upper ∈ bounds.upper, bounds.lower.lt upper = true

/-! ## Checks -/

theorem checkProbabilities_eq_ok_iff {probabilities : Bounds} :
    checkProbabilities probabilities = .ok () ↔
      (probabilities.lower = Binary64.negativeInfinity
          ∨ isProbability probabilities.lower = true)
        ∧ ∀ upper ∈ probabilities.upper,
          upper = Binary64.infinity ∨ Binary64.one.lt upper = false := by
  obtain ⟨lower, upper⟩ := probabilities
  rw [← Binary64.same_negativeInfinity_iff, ← Bool.or_eq_true, checkProbabilities]
  simp only [← Binary64.same_infinity_iff]
  cases lower.same Binary64.negativeInfinity || isProbability lower with
  | false => simp [throw, throwThe, MonadExceptOf.throw, bind, Except.bind]
  | true =>
    cases upper with
    | none => simp [pure, Except.pure]
    | some upper =>
      simp only [if_true, true_and, Option.mem_def, Option.some.injEq, forall_eq']
      cases upper.same Binary64.infinity <;> cases Binary64.one.lt upper <;>
        simp [pure, Except.pure, throw, throwThe, MonadExceptOf.throw]

theorem checkBounds_eq_ok_iff {operator : Operator} {kind : BoundKind} {bounds : Bounds} :
    checkBounds operator kind bounds = .ok () ↔
      (bounds.upper.isSome ↔ operator = .between)
        ∧ ∀ upper ∈ bounds.upper, upper.le bounds.lower = false := by
  obtain ⟨lower, upper⟩ := bounds
  rw [checkBounds]
  by_cases between : operator = .between <;> cases upper <;>
    simp [between, throw, throwThe, MonadExceptOf.throw, pure, Except.pure]

theorem checkPresent_eq_ok_iff {check : Bounds → Except DataError Unit} {part : Option Bounds} :
    checkPresent check part = .ok () ↔ ∀ bounds ∈ part, check bounds = .ok () := by
  cases part <;> simp [checkPresent, pure, Except.pure]

/-- What is accepted, check by check. -/
theorem build_eq_ok_iff {operator : Operator} {values probabilities : Option Bounds}
    {label : Option String} {threshold : Threshold} :
    build operator values probabilities label = .ok threshold ↔
      threshold = ⟨operator, values, probabilities, label⟩
        ∧ (values.isSome ∨ probabilities.isSome)
        ∧ (∀ bounds ∈ probabilities, checkProbabilities bounds = .ok ())
        ∧ (∀ bounds ∈ values, checkBounds operator .value bounds = .ok ())
        ∧ (∀ bounds ∈ probabilities, checkBounds operator .probability bounds = .ok ())
        ∧ (label.isSome → threshold.isFinite = true) := by
  have present : ¬(values.isNone && probabilities.isNone) = true ↔
      values.isSome ∨ probabilities.isSome := by
    cases values <;> cases probabilities <;> simp
  have labelled (finite : Bool) : ¬(!finite && label.isSome) = true ↔
      (label.isSome → finite = true) := by
    cases finite <;> simp
  simp only [build, refuse_bind_eq_ok_iff, check_bind_eq_ok_iff, checkPresent_eq_ok_iff, present,
    labelled, pure, Except.pure, Except.ok.injEq]
  constructor
  · rintro ⟨some, range, values, probabilities, finite, rfl⟩
    exact ⟨rfl, some, range, values, probabilities, finite⟩
  · rintro ⟨rfl, some, range, values, probabilities, finite⟩
    exact ⟨some, range, values, probabilities, finite, rfl⟩

/-! ## Accepted thresholds -/

theorem mem_bounds_iff {threshold : Threshold} {bounds : Bounds} :
    bounds ∈ threshold.bounds ↔ bounds ∈ threshold.values ∨ bounds ∈ threshold.probabilities := by
  simp [Threshold.bounds]

/-- A threshold that is given out is one that is accepted from its own parts. -/
theorem Produced.build_eq {threshold : Threshold} (produced : threshold.Produced) :
    Threshold.build threshold.operator threshold.values threshold.probabilities threshold.label
      = .ok threshold := by
  cases produced with
  | build built =>
    obtain rfl := (build_eq_ok_iff.mp built).1
    exact built
  | withLabel _ given =>
    obtain rfl := (build_eq_ok_iff.mp given).1
    exact given
  | allData => rfl

section

variable {threshold : Threshold} (produced : threshold.Produced)

include produced

theorem Produced.check_probabilities {probabilities : Bounds}
    (present : probabilities ∈ threshold.probabilities) :
    (probabilities.lower = Binary64.negativeInfinity ∨ isProbability probabilities.lower = true)
      ∧ ∀ upper ∈ probabilities.upper,
        upper = Binary64.infinity ∨ Binary64.one.lt upper = false := by
  obtain ⟨-, -, range, -⟩ := build_eq_ok_iff.mp produced.build_eq
  exact checkProbabilities_eq_ok_iff.mp (range probabilities present)

theorem Produced.check_bounds {bounds : Bounds} (present : bounds ∈ threshold.bounds) :
    (bounds.upper.isSome ↔ threshold.operator = .between)
      ∧ ∀ upper ∈ bounds.upper, upper.le bounds.lower = false := by
  obtain ⟨-, -, -, values, probabilities, -⟩ := build_eq_ok_iff.mp produced.build_eq
  rcases mem_bounds_iff.mp present with isValue | isProbability
  · exact checkBounds_eq_ok_iff.mp (values bounds isValue)
  · exact checkBounds_eq_ok_iff.mp (probabilities bounds isProbability)

theorem Produced.shaped : threshold.Shaped := by
  obtain ⟨-, present, -, -, -, finite⟩ := build_eq_ok_iff.mp produced.build_eq
  refine ⟨present, ?_, fun bounds member => (produced.check_bounds member).1, ?_⟩
  · intro lower isLower
    obtain ⟨probabilities, isPart, rfl⟩ := Option.map_eq_some_iff.mp isLower
    exact (produced.check_probabilities isPart).1
  · intro labelled bounds member
    have all := finite labelled
    simp only [Threshold.isFinite, Bool.and_eq_true, Option.all_eq_true] at all
    have boundsFinite : bounds.isFinite = true :=
      (mem_bounds_iff.mp member).elim (all.1 bounds) (all.2 bounds)
    simpa [Bounds.isFinite, Option.all_eq_true] using boundsFinite

/-- A lower probability is a number. -/
theorem Produced.lowerProbability_isNumber {probabilities : Bounds}
    (present : probabilities ∈ threshold.probabilities) :
    probabilities.lower.isNaN = false := by
  rcases (produced.check_probabilities present).1 with least | within
  · rw [least]
    rfl
  · exact (Binary64.le_iff.mp (Bool.and_eq_true_iff.mp within).1).2.1

/-- What the checks let through is well formed just when no value is a NaN beside another, and no
upper probability is one or below zero. -/
theorem Produced.wellFormed_iff :
    threshold.WellFormed ↔
      (∀ values ∈ threshold.values, ∀ upper ∈ values.upper,
          values.lower.isNaN = false ∧ upper.isNaN = false)
        ∧ ∀ upper ∈ threshold.upperProbability?, Binary64.zero.le upper = true := by
  constructor
  · intro wellFormed
    refine ⟨fun values isPart upper isUpper => ?_, fun upper isUpper => ?_⟩
    · have above := wellFormed.ordered values (mem_bounds_iff.mpr (.inl isPart)) upper isUpper
      obtain ⟨lowerNumber, upperNumber, -⟩ := Binary64.lt_iff.mp above
      exact ⟨lowerNumber, upperNumber⟩
    · rcases wellFormed.upperProbability upper isUpper with rfl | within
      · decide
      · exact (Bool.and_eq_true_iff.mp within).1
  · rintro ⟨numbers, nonnegative⟩
    refine ⟨produced.shaped, fun upper isUpper => ?_, fun bounds member upper isUpper => ?_⟩
    · obtain ⟨probabilities, isPart, isUpperOf⟩ := Option.bind_eq_some_iff.mp isUpper
      have isNumber := (Binary64.le_iff.mp (nonnegative upper isUpper)).2.1
      refine ((produced.check_probabilities isPart).2 upper isUpperOf).imp_right fun notAbove => ?_
      exact Bool.and_eq_true_iff.mpr
        ⟨nonnegative upper isUpper, (Binary64.le_iff_of_not_lt notAbove).mpr ⟨isNumber, rfl⟩⟩
    · have notBelow := (produced.check_bounds member).2 upper isUpper
      rw [Binary64.lt_iff_of_not_le notBelow]
      rcases mem_bounds_iff.mp member with isValue | isProbability
      · exact numbers bounds isValue upper isUpper
      · have isUpperProbability : upper ∈ threshold.upperProbability? :=
          Option.bind_eq_some_iff.mpr ⟨bounds, isProbability, isUpper⟩
        exact ⟨produced.lowerProbability_isNumber isProbability,
          (Binary64.le_iff.mp (nonnegative upper isUpperProbability)).2.1⟩

/-- A label leaves finite bounds only, to which the checks are not blind. -/
theorem Produced.wellFormed_of_label (labelled : threshold.label.isSome) :
    threshold.WellFormed := by
  have finite := produced.shaped.finite labelled
  rw [produced.wellFormed_iff]
  refine ⟨fun values isPart upper isUpper => ?_, fun upper isUpper => ?_⟩
  · obtain ⟨lowerFinite, upperFinite⟩ := finite values (mem_bounds_iff.mpr (.inl isPart))
    exact ⟨Binary64.isNaN_eq_false_of_isFinite lowerFinite,
      Binary64.isNaN_eq_false_of_isFinite (upperFinite upper isUpper)⟩
  · obtain ⟨probabilities, isPart, isUpperOf⟩ := Option.bind_eq_some_iff.mp isUpper
    have member : probabilities ∈ threshold.bounds := mem_bounds_iff.mpr (.inr isPart)
    obtain ⟨lowerFinite, upperFinite⟩ := finite probabilities member
    have above : probabilities.lower.lt upper = true :=
      (Binary64.lt_iff_of_not_le ((produced.check_bounds member).2 upper isUpperOf)).mpr
        ⟨Binary64.isNaN_eq_false_of_isFinite lowerFinite,
          Binary64.isNaN_eq_false_of_isFinite (upperFinite upper isUpperOf)⟩
    rcases (produced.check_probabilities isPart).1 with least | within
    · rw [least] at lowerFinite
      cases lowerFinite
    · exact Binary64.le_of_le_of_lt (Bool.and_eq_true_iff.mp within).1 above

end

/-- Every threshold that is given out has bounds in the right places, and is well formed just when
no value of a condition with two is a NaN and no upper probability is a NaN or below zero.  Labelled
thresholds are always well formed. -/
theorem Produced.wellFormedness {threshold : Threshold} (produced : threshold.Produced) :
    threshold.Shaped
      ∧ (threshold.WellFormed ↔
        (∀ values ∈ threshold.values, ∀ upper ∈ values.upper,
            values.lower.isNaN = false ∧ upper.isNaN = false)
          ∧ ∀ upper ∈ threshold.upperProbability?, Binary64.zero.le upper = true)
      ∧ (threshold.label.isSome → threshold.WellFormed) :=
  ⟨produced.shaped, produced.wellFormed_iff, produced.wellFormed_of_label⟩

/-- A labelled range of values and probabilities is well formed, and so is a range from negative
infinity up to a probability. -/
theorem Produced.wellFormedness_ranges :
    (∃ range labelled,
        Threshold.build .between (some ⟨.zero, some .one⟩) (some ⟨.zero, some .one⟩) none
            = .ok range
          ∧ range.withLabel "flood stage" = .ok labelled ∧ labelled.WellFormed)
      ∧ ∃ range, betweenProbabilities .negativeInfinity .one = .ok range ∧ range.WellFormed := by
  constructor
  · obtain ⟨range, labelled, built, given⟩ : ∃ range labelled,
        Threshold.build .between (some ⟨.zero, some .one⟩) (some ⟨.zero, some .one⟩) none
            = .ok range
          ∧ range.withLabel "flood stage" = .ok labelled := ⟨_, _, rfl, rfl⟩
    refine ⟨range, labelled, built, given, ?_⟩
    refine (Produced.wellFormedness (.withLabel (.build built) given)).2.2 ?_
    obtain rfl := (build_eq_ok_iff.mp given).1
    rfl
  · obtain ⟨range, built⟩ : ∃ range, betweenProbabilities .negativeInfinity .one = .ok range :=
      ⟨_, rfl⟩
    refine ⟨range, built, (Produced.wellFormedness (.build built)).2.1.mpr ?_⟩
    obtain rfl := (build_eq_ok_iff.mp built).1
    exact ⟨by rintro _ ⟨⟩, by rintro _ ⟨⟩; decide⟩

/-- Ranges of probabilities up to minus one and up to a NaN are accepted, and so is a range of
values that has a NaN below. -/
theorem malformed_accepted :
    (∃ range, betweenProbabilities .negativeInfinity ⟨0xBFF0000000000000⟩ = .ok range
        ∧ ¬range.WellFormed)
      ∧ (∃ range, betweenProbabilities .zero .nan = .ok range ∧ ¬range.WellFormed)
      ∧ ∃ range, betweenValues .nan .one = .ok range ∧ ¬range.WellFormed := by
  refine ⟨⟨_, rfl, fun wellFormed => ?_⟩, ⟨_, rfl, fun wellFormed => ?_⟩,
    ⟨_, rfl, fun wellFormed => ?_⟩⟩
  · exact absurd (wellFormed.upperProbability _ rfl) (by decide)
  · exact absurd (wellFormed.upperProbability _ rfl) (by decide)
  · exact absurd (wellFormed.ordered _ List.mem_cons_self _ rfl) (by decide)

end Forecast.Threshold
