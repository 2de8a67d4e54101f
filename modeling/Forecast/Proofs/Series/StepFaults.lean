import Forecast.Proofs.Collection.Traversal
import Forecast.Proofs.Series.Steady

/-!
# Faults found by the check of steps

The check of steps refuses a step that is not positive.  With a positive one it refuses the first
issuance, the baseline behind the main series, that has another number of events than the first of
all or a lead that is not the multiple of the step that it should be.
-/

namespace Forecast

variable {α : Type}

/-- How an issuance fails to have its events at the first `count` multiples of a step. -/
inductive Issuance.StepFault (part : SeriesPart) (step : Duration) (count : Nat)
    (issuance : Issuance α) : DataError → Prop where
  | miscounted (differs : issuance.events.length ≠ count) :
      StepFault part step count issuance
        (.stepCountMismatch part issuance.basis count issuance.events.length)
  | misplaced {before : Nat} {lead : Duration} {after : List Duration}
      (counted : issuance.events.length = count)
      (split : issuance.leads = step.multiples before ++ lead :: after)
      (off : lead ≠ step.times (before + 1)) :
      StepFault part step count issuance
        (.offStep issuance.basis step (step.times (before + 1)) lead)

/-- Behind issuances that are on `count` steps, the first other one has a fault. -/
def Issuance.FirstStepFault (part : SeriesPart) (step : Duration) (count : Nat)
    (issuances : List (Issuance α)) (cause : DataError) : Prop :=
  ∃ before issuance after, issuances = before ++ issuance :: after
    ∧ (∀ earlier ∈ before, earlier.leads = step.multiples count)
    ∧ issuance.StepFault part step count cause

/-- Why a series is refused as a regular one. -/
inductive TimeSeries.StepsRefused (series : TimeSeries α) (step : Duration) : DataError → Prop where
  | notPositive (short : step ≤ Duration.zero) :
      StepsRefused series step (.invalidTimeStep (some step))
  | main {first : Issuance α} {cause : DataError} (positive : Duration.zero < step)
      (isFirst : series.issuances.head? = some first)
      (fault : Issuance.FirstStepFault .main step first.events.length series.issuances cause) :
      StepsRefused series step cause
  | baseline {first : Issuance α} {cause : DataError} (positive : Duration.zero < step)
      (isFirst : series.issuances.head? = some first)
      (fine : ∀ issuance ∈ series.issuances,
        issuance.leads = step.multiples first.events.length)
      (fault : Issuance.FirstStepFault .baseline step first.events.length series.baselineIssuances
        cause) :
      StepsRefused series step cause

namespace RegularSeries

variable {part : SeriesPart} {step : Duration} {count : Nat}

theorem checkIssuances_cons (issuance : Issuance α) (rest : List (Issuance α)) :
    checkIssuances part step count (issuance :: rest)
      = (checkIssuances part step count [issuance] >>= fun _ =>
          checkIssuances part step count rest) := by
  rw [checkIssuances, checkIssuances]
  by_cases counted : issuance.events.length = count
  · rw [if_neg (not_not.mpr counted), if_neg (not_not.mpr counted)]
    cases LeadCheck.firstOff? step issuance.leads <;> rfl
  · rw [if_pos counted, if_pos counted]
    rfl

/-- An issuance is refused just for its fault. -/
theorem checkIssuances_singleton_eq_error_iff {issuance : Issuance α} {cause : DataError} :
    checkIssuances part step count [issuance] = .error cause ↔
      issuance.StepFault part step count cause := by
  rw [checkIssuances]
  constructor
  · intro refused
    by_cases counted : issuance.events.length = count
    · rw [if_neg (not_not.mpr counted)] at refused
      cases found : LeadCheck.firstOff? step issuance.leads with
      | none =>
        rw [found] at refused
        cases refused
      | some check =>
        rw [found] at refused
        cases refused
        obtain ⟨before, after, split, multiple, expected, off⟩ :=
          LeadCheck.firstOff?_eq_some_iff.mp found
        rw [expected, multiple] at off ⊢
        exact .misplaced counted split off
    · rw [if_pos counted] at refused
      cases refused
      exact .miscounted counted
  · intro fault
    cases fault with
    | miscounted differs =>
      rw [if_pos differs]
      rfl
    | @misplaced before lead after counted split off =>
      have found : LeadCheck.firstOff? step issuance.leads
          = some ⟨before + 1, step.times (before + 1), lead⟩ :=
        LeadCheck.firstOff?_eq_some_iff.mpr ⟨before, after, split, rfl, rfl, off⟩
      rw [if_neg (not_not.mpr counted), found]
      rfl

/-- Issuances are refused for the fault of the first that has one. -/
theorem checkIssuances_eq_error_iff {issuances : List (Issuance α)} {cause : DataError} :
    checkIssuances part step count issuances = .error cause ↔
      Issuance.FirstStepFault part step count issuances cause := by
  induction issuances with
  | nil => simp [checkIssuances, Issuance.FirstStepFault, pure, Except.pure]
  | cons first rest ih =>
    rw [Issuance.FirstStepFault, exists_split_cons_iff, checkIssuances_cons, bind_eq_error_iff,
      Unique.exists_iff, ← Issuance.FirstStepFault, ← ih, PUnit.default_eq_unit,
      checkIssuances_singleton_eq_error_iff, checkIssuances_eq_ok_iff, List.forall_mem_singleton]

/-- A series is refused for the step, or for its first issuance with a fault. -/
theorem checkSteps_eq_error_iff {series : TimeSeries α} {step : Duration} {cause : DataError}
    (nonempty : series.issuances ≠ []) :
    checkSteps series step = .error cause ↔ series.StepsRefused step cause := by
  obtain ⟨first, rest, split⟩ := List.exists_cons_of_ne_nil nonempty
  have isFirst : series.issuances.head? = some first := by rw [split, List.head?_cons]
  have counted : (series.issuances ++ series.baselineIssuances).head?.elim 0
      (fun issuance => issuance.events.length) = first.events.length := by
    rw [split]
    rfl
  rw [checkSteps, counted]
  constructor
  · intro refused
    by_cases short : step ≤ Duration.zero
    · rw [if_pos short] at refused
      cases refused
      exact .notPositive short
    · have positive : Duration.zero < step := Duration.not_le.mp short
      rw [if_neg short] at refused
      rcases bind_eq_error_iff.mp refused with inMain | ⟨⟨⟩, fine, inBaseline⟩
      · exact .main positive isFirst (checkIssuances_eq_error_iff.mp inMain)
      · exact .baseline positive isFirst ((checkIssuances_eq_ok_iff .main).mp fine)
          (checkIssuances_eq_error_iff.mp inBaseline)
  · intro refused
    cases refused with
    | notPositive short =>
      rw [if_pos short]
      rfl
    | main positive same fault =>
      obtain rfl := Option.some.inj (isFirst.symm.trans same)
      rw [if_neg (Duration.not_le.mpr positive)]
      exact bind_eq_error_iff.mpr (.inl (checkIssuances_eq_error_iff.mpr fault))
    | baseline positive same fine fault =>
      obtain rfl := Option.some.inj (isFirst.symm.trans same)
      rw [if_neg (Duration.not_le.mpr positive)]
      have accepted := (checkIssuances_eq_ok_iff .main).mpr fine
      exact bind_eq_error_iff.mpr (.inr ⟨(), accepted, checkIssuances_eq_error_iff.mpr fault⟩)

theorem ofSeries_eq_error_iff {series : TimeSeries α} {step : Duration} {error : Error}
    (nonempty : series.issuances ≠ []) :
    ofSeries series step = .error error ↔
      ∃ cause, error = .invalidInput cause ∧ series.StepsRefused step cause := by
  simp only [ofSeries, ← checkSteps_eq_error_iff nonempty]
  cases checkSteps series step with
  | ok => simp
  | error => simp [eq_comm]

end RegularSeries

end Forecast
