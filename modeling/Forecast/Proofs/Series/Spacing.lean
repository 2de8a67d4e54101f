import Forecast.Series.Basic
import Mathlib.Data.List.Chain

/-!
# Spacing of leads

Leads are evenly spaced if there is one of them only, or if each is the same gap behind the one
before.  This gap, or the lone lead, is what is read off leads; nothing is read off others.
-/

namespace Forecast

namespace Duration

/-- Each duration is the gap behind the one before. -/
def Spaced (gap : Duration) (durations : List Duration) : Prop :=
  durations.IsChain fun earlier later => later - earlier = gap

/-- A lone duration, which is its own gap, or several with the same gap in between. -/
def EvenlySpaced (gap : Duration) (durations : List Duration) : Prop :=
  durations = [gap] ∨ 2 ≤ durations.length ∧ Spaced gap durations

theorem spaced_cons_cons {gap first second : Duration} {rest : List Duration} :
    Spaced gap (first :: second :: rest) ↔
      second - first = gap ∧ Spaced gap (second :: rest) :=
  List.isChain_cons_cons

theorem evenlySpaced_cons_cons {gap first second : Duration} {rest : List Duration} :
    EvenlySpaced gap (first :: second :: rest) ↔ Spaced gap (first :: second :: rest) := by
  simp [EvenlySpaced]

/-- Durations that begin with their gap are spaced from there on. -/
theorem evenlySpaced_cons_self {gap : Duration} {rest : List Duration} :
    EvenlySpaced gap (gap :: rest) ↔ Spaced gap (gap :: rest) := by
  cases rest with
  | nil => simp [EvenlySpaced, Spaced]
  | cons second rest => exact evenlySpaced_cons_cons

theorem sub_eq_iff {gap earlier later : Duration} :
    later - earlier = gap ↔ later.nanoseconds = earlier.nanoseconds + gap.nanoseconds := by
  rw [← nanoseconds_inj, nanoseconds_sub]
  omega

end Duration

/-- Comparing each duration with the next compares consecutive ones. -/
private theorem all_gaps_iff {gap first : Duration} {rest : List Duration} :
    (rest.zip (first :: rest)).all (fun pair => pair.1 - pair.2 == gap) = true ↔
      Duration.Spaced gap (first :: rest) := by
  induction rest generalizing first with
  | nil => simp [Duration.Spaced]
  | cons second rest ih =>
    rw [List.zip_cons_cons, List.all_cons, Bool.and_eq_true, beq_iff_eq, ih,
      Duration.spaced_cons_cons]

/-- A gap is read off just the leads that are evenly spaced by it. -/
theorem constantGap?_eq_some_iff {gap : Duration} {leads : List Duration} :
    constantGap? leads = some gap ↔ Duration.EvenlySpaced gap leads := by
  match leads with
  | [] => simp [constantGap?, Duration.EvenlySpaced]
  | [only] => simp [constantGap?, Duration.EvenlySpaced]
  | first :: second :: rest =>
    rw [constantGap?, Option.ite_none_right_eq_some, Option.some.injEq, all_gaps_iff,
      Duration.evenlySpaced_cons_cons]
    constructor
    · rintro ⟨spaced, rfl⟩
      exact spaced
    · intro spaced
      obtain rfl : second - first = gap := (Duration.spaced_cons_cons.mp spaced).1
      exact ⟨spaced, rfl⟩

end Forecast
