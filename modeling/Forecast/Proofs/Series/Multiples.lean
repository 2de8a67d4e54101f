import Forecast.Proofs.Collection.SortedMap
import Forecast.Proofs.Series.Spacing
import Forecast.Series.Regular

/-!
# Multiples of a step

The leads of a regular series are the first positive multiples of its step.  They ascend strictly,
and they are the leads that begin with the step and are evenly spaced by it.  The check of leads
against multiples passes them and stops at the first other lead.
-/

namespace Forecast

namespace Duration

/-- The first positive multiples of a duration. -/
def multiples (step : Duration) (count : Nat) : List Duration :=
  (List.range' 1 count).map step.times

@[simp]
theorem length_multiples (step : Duration) (count : Nat) :
    (step.multiples count).length = count := by
  simp [multiples]

theorem mem_multiples {step lead : Duration} {count : Nat} :
    lead ∈ step.multiples count ↔
      ∃ multiple, 1 ≤ multiple ∧ multiple ≤ count ∧ step.times multiple = lead := by
  simp only [multiples, List.mem_map, List.mem_range'_1]
  constructor
  · rintro ⟨multiple, ⟨positive, below⟩, rfl⟩
    exact ⟨multiple, positive, by omega, rfl⟩
  · rintro ⟨multiple, positive, bound, rfl⟩
    exact ⟨multiple, ⟨positive, by omega⟩, rfl⟩

@[simp]
theorem times_one (duration : Duration) : duration.times 1 = duration := by
  simp [← nanoseconds_inj]

theorem times_pos {step : Duration} {multiple : Nat} (positive : zero < step)
    (nonzero : 1 ≤ multiple) : zero < step.times multiple := by
  rw [lt_iff, nanoseconds_times]
  exact Int.mul_pos positive (by omega)

theorem strictlyAscending_multiples {step : Duration} (positive : zero < step) (count : Nat) :
    StrictlyAscending (step.multiples count) := by
  rw [StrictlyAscending, multiples, List.pairwise_map]
  refine List.Pairwise.imp ?_ List.pairwise_lt_range'
  intro fewer more less
  rw [compare_eq_lt, lt_iff, nanoseconds_times, nanoseconds_times]
  exact Int.mul_lt_mul_of_pos_left (by omega) positive

theorem pos_of_mem_multiples {step lead : Duration} {count : Nat} (positive : zero < step)
    (member : lead ∈ step.multiples count) : zero < lead := by
  obtain ⟨multiple, nonzero, -, rfl⟩ := mem_multiples.mp member
  exact times_pos positive nonzero

theorem multiples_one (step : Duration) : step.multiples 1 = [step] := by
  simp [multiples]

theorem times_times (step : Duration) (inner outer : Nat) :
    (step.times inner).times outer = step.times (outer * inner) := by
  rw [← nanoseconds_inj, nanoseconds_times, nanoseconds_times, nanoseconds_times, Int.natCast_mul,
    Int.mul_assoc, Int.mul_comm (inner : Int)]

theorem times_inj {step : Duration} (positive : zero < step) {first second : Nat} :
    step.times first = step.times second ↔ first = second := by
  have nonzero : step.nanoseconds ≠ 0 := by
    rw [lt_iff] at positive
    simp only [zero] at positive
    omega
  rw [← nanoseconds_inj, nanoseconds_times, nanoseconds_times, Int.mul_eq_mul_left_iff nonzero,
    Int.natCast_inj]

theorem mem_multiples_self {step : Duration} {count : Nat} (nonzero : 1 ≤ count) :
    step ∈ step.multiples count :=
  mem_multiples.mpr ⟨1, Nat.le_refl 1, nonzero, times_one step⟩

end Duration

namespace LeadCheck

/-- Comparing goes on from a lead that is the multiple. -/
theorem compareFrom_times_cons (step : Duration) (multiple : Nat) (rest : List Duration) :
    compareFrom step multiple (step.times multiple :: rest)
      = ⟨multiple, step.times multiple, step.times multiple⟩
        :: compareFrom step (multiple + 1) rest := by
  simp [compareFrom, isOff]

/-- Comparing ends at a lead that is off. -/
theorem compareFrom_cons_of_ne {step lead : Duration} {multiple : Nat}
    (off : lead ≠ step.times multiple) (rest : List Duration) :
    compareFrom step multiple (lead :: rest) = [⟨multiple, step.times multiple, lead⟩] := by
  simp [compareFrom, isOff, off]

theorem find?_compareFrom_times_cons (step : Duration) (multiple : Nat) (rest : List Duration) :
    (compareFrom step multiple (step.times multiple :: rest)).find? isOff
      = (compareFrom step (multiple + 1) rest).find? isOff := by
  rw [compareFrom_times_cons, List.find?_cons_of_neg (by simp [isOff])]

theorem find?_compareFrom_cons_of_ne {step lead : Duration} {multiple : Nat}
    (off : lead ≠ step.times multiple) (rest : List Duration) :
    (compareFrom step multiple (lead :: rest)).find? isOff
      = some ⟨multiple, step.times multiple, lead⟩ := by
  rw [compareFrom_cons_of_ne off, List.find?_cons_of_pos (by simpa [isOff] using off)]

private theorem find?_compareFrom (step : Duration) (first : Nat) (leads : List Duration) :
    (compareFrom step first leads).find? isOff = none ↔
      leads = (List.range' first leads.length).map step.times := by
  induction leads generalizing first with
  | nil => simp [compareFrom]
  | cons lead rest ih =>
    rw [List.length_cons, List.range'_succ, List.map_cons, List.cons.injEq]
    by_cases exact : lead = step.times first
    · rw [exact, find?_compareFrom_times_cons, ih]
      simp
    · rw [find?_compareFrom_cons_of_ne exact]
      simp [exact]

/-- No lead is off just when the leads are the first multiples of the step. -/
theorem firstOff?_eq_none_iff {step : Duration} {leads : List Duration} :
    firstOff? step leads = none ↔ leads = step.multiples leads.length :=
  find?_compareFrom step 1 leads

private theorem find?_compareFrom_eq_some_iff {step : Duration} {first : Nat}
    {leads : List Duration} {check : LeadCheck} :
    (compareFrom step first leads).find? isOff = some check ↔
      ∃ count after, leads = (List.range' first count).map step.times ++ check.actual :: after
        ∧ check.multiple = first + count ∧ check.expected = step.times check.multiple
        ∧ check.actual ≠ check.expected := by
  induction leads generalizing first with
  | nil => simp [compareFrom]
  | cons lead rest ih =>
    by_cases exact : lead = step.times first
    · rw [exact, find?_compareFrom_times_cons, ih]
      constructor
      · rintro ⟨count, after, rfl, multiple, expected, off⟩
        refine ⟨count + 1, after, ?_, by omega, expected, off⟩
        rw [List.range'_succ, List.map_cons, List.cons_append]
      · rintro ⟨count, after, split, multiple, expected, off⟩
        cases count with
        | zero =>
          obtain ⟨actual, -⟩ := List.cons.inj split
          rw [expected, multiple, ← actual] at off
          exact absurd rfl off
        | succ count =>
          rw [List.range'_succ, List.map_cons, List.cons_append] at split
          exact ⟨count, after, (List.cons.inj split).2, by omega, expected, off⟩
    · rw [find?_compareFrom_cons_of_ne exact, Option.some.injEq]
      constructor
      · rintro rfl
        exact ⟨0, rest, rfl, rfl, rfl, exact⟩
      · rintro ⟨count, after, split, multiple, expected, -⟩
        cases count with
        | zero =>
          obtain ⟨actual, -⟩ := List.cons.inj split
          obtain ⟨_, _, _⟩ := check
          simp_all
        | succ count =>
          rw [List.range'_succ, List.map_cons, List.cons_append] at split
          exact absurd (List.cons.inj split).1 exact

/-- The first lead that is off lies behind multiples of the step. -/
theorem firstOff?_eq_some_iff {step : Duration} {leads : List Duration} {check : LeadCheck} :
    firstOff? step leads = some check ↔
      ∃ count after, leads = step.multiples count ++ check.actual :: after
        ∧ check.multiple = count + 1 ∧ check.expected = step.times check.multiple
        ∧ check.actual ≠ check.expected := by
  simp only [Nat.add_comm _ 1]
  exact find?_compareFrom_eq_some_iff

end LeadCheck

namespace Duration

/-- Behind a multiple, the gap leads to the next one. -/
theorem sub_times_eq_iff {step later : Duration} {multiple : Nat} :
    later - step.times multiple = step ↔ later = step.times (multiple + 1) := by
  rw [sub_eq_iff, ← nanoseconds_inj, nanoseconds_times, nanoseconds_times, Int.natCast_add,
    Int.mul_add, Int.natCast_one, Int.mul_one]

theorem spaced_times_cons_iff {step : Duration} {first : Nat} {rest : List Duration} :
    Spaced step (step.times first :: rest) ↔
      rest = (List.range' (first + 1) rest.length).map step.times := by
  induction rest generalizing first with
  | nil => simp [Spaced]
  | cons second rest ih =>
    rw [spaced_cons_cons, sub_times_eq_iff, List.length_cons, List.range'_succ, List.map_cons,
      List.cons.injEq]
    refine and_congr_right ?_
    rintro rfl
    exact ih

/-- The multiples of a step are what begins with it and is evenly spaced by it. -/
theorem cons_eq_multiples_iff {step first : Duration} {rest : List Duration} :
    first :: rest = step.multiples (rest.length + 1) ↔
      first = step ∧ EvenlySpaced step (first :: rest) := by
  rw [multiples, List.range'_succ, List.map_cons, List.cons.injEq, times_one]
  refine and_congr_right ?_
  rintro rfl
  rw [evenlySpaced_cons_self, ← spaced_times_cons_iff, times_one]

theorem evenlySpaced_multiples (step : Duration) {count : Nat} (nonzero : 1 ≤ count) :
    EvenlySpaced step (step.multiples count) := by
  cases multiplesEq : step.multiples count with
  | nil =>
    have lengths := congrArg List.length multiplesEq
    simp at lengths
    omega
  | cons first rest =>
    have lengths : count = rest.length + 1 := by
      rw [← step.length_multiples count, multiplesEq, List.length_cons]
    exact (cons_eq_multiples_iff.mp (lengths ▸ multiplesEq.symm)).2

/-- Durations that are evenly spaced by a positive gap ascend. -/
theorem EvenlySpaced.strictlyAscending {gap : Duration} {durations : List Duration}
    (spaced : EvenlySpaced gap durations) (positive : zero < gap) :
    StrictlyAscending durations := by
  rcases spaced with rfl | ⟨-, spaced⟩
  · exact List.pairwise_singleton _ _
  · have chain : (durations.map nanoseconds).IsChain (· < ·) := by
      rw [List.isChain_map]
      refine spaced.imp fun {earlier later} apart => ?_
      rw [sub_eq_iff] at apart
      rw [apart]
      exact Int.lt_add_of_pos_right _ positive
    rw [List.isChain_iff_pairwise, List.pairwise_map] at chain
    exact chain.imp compare_eq_lt.mpr

theorem least_multiples {step : Duration} (positive : zero < step) {count : Nat}
    (nonzero : 1 ≤ count) : Least (· ∈ step.multiples count) step := by
  have ascending := strictlyAscending_multiples positive count
  obtain ⟨more, rfl⟩ := Nat.exists_eq_add_of_le' nonzero
  rw [multiples, List.range'_succ, List.map_cons, times_one] at ascending ⊢
  exact ascending.least_head

end Duration

end Forecast
