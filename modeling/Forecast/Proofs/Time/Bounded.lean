import Forecast.Time.Window

/-!
# Bounded times

The durations of this library are unbounded; those of a machine are not.  There, a difference must
be representable, which it is if its milliseconds fit a signed 64-bit number, and a product must
have whole seconds that do.  Counts are signed 32-bit numbers.  An operation fails outside these
bounds, and is the unbounded one within them.

No two representable instants are further apart than a small part of the longest duration, and this
leaves room for twice their distance.
-/

namespace Forecast

/-! ## Bounds -/

/-- The greatest signed 64-bit number. -/
def greatestInt64 : Int := 9223372036854775807

/-- The greatest signed 32-bit number. -/
def greatestInt32 : Nat := 2147483647

namespace Duration

/-- As many milliseconds as a signed 64-bit number can count. -/
def longest : Duration := ⟨greatestInt64 * 1000000⟩

/-- Durations that are not longer than a limit, in either direction. -/
def Within (duration limit : Duration) : Prop :=
  -limit.nanoseconds ≤ duration.nanoseconds ∧ duration.nanoseconds ≤ limit.nanoseconds

instance (duration limit : Duration) : Decidable (duration.Within limit) :=
  inferInstanceAs (Decidable (_ ∧ _))

/-- Durations whose whole seconds lie strictly between the ends of the signed 64-bit numbers. -/
def FitsSeconds (duration : Duration) : Prop :=
  -greatestInt64 - 1 < duration.seconds ∧ duration.seconds < greatestInt64

instance (duration : Duration) : Decidable duration.FitsSeconds :=
  inferInstanceAs (Decidable (_ ∧ _))

end Duration

namespace Instant

/-- Instants from the first second to the last, and in their leap seconds. -/
def Representable (instant : Instant) : Prop :=
  earliest.second ≤ instant.second ∧ instant.second ≤ latest.second

instance (instant : Instant) : Decidable instant.Representable :=
  inferInstanceAs (Decidable (_ ∧ _))

/-- The seconds from the first instant to the last, with one more for a leap second that counts and
two for the nanoseconds. -/
def reach : Duration := ⟨(latest.second - earliest.second + 3) * Duration.second⟩

theorem Representable.within_reach {basis valid : Instant} (basisBounds : basis.Representable)
    (validBounds : valid.Representable) : (lead basis valid).Within reach := by
  have seconds := valid.secondsSince_near basis
  have basisNanoseconds := basis.bounded
  have validNanoseconds := valid.bounded
  simp only [Representable] at basisBounds validBounds
  simp only [Duration.Within, reach, nanoseconds_lead, Duration.second]
  omega

end Instant

namespace Duration

open Instant (reach)

variable {left right duration step : Duration}

/-- The longest duration has room for the reach of instants twice. -/
theorem two_reach_le_longest : 2 * reach.nanoseconds ≤ longest.nanoseconds := by decide

theorem Within.sub (leftShort : left.Within reach) (rightShort : right.Within reach) :
    (left - right).Within longest := by
  have room := two_reach_le_longest
  simp only [Within, nanoseconds_sub] at *
  omega

theorem Within.of_reach (short : duration.Within reach) : duration.Within longest := by
  have room := two_reach_le_longest
  have nonneg : 0 ≤ reach.nanoseconds := by decide
  simp only [Within] at *
  omega

theorem Within.fitsSeconds (bounds : duration.Within longest) : duration.FitsSeconds := by
  simp only [Within, longest, greatestInt64] at bounds
  rw [FitsSeconds, greatestInt64, seconds, second, Int.fdiv_eq_ediv_of_nonneg _ (by decide)]
  omega

/-- A multiple that is as short as a lead bounds the step, and so the next multiple. -/
theorem Within.times_succ {multiple : Nat} (positive : 1 ≤ multiple)
    (short : (step.times multiple).Within reach) : (step.times (multiple + 1)).Within longest := by
  obtain ⟨before, rfl⟩ := Nat.exists_eq_add_of_le' positive
  have room := two_reach_le_longest
  simp only [Within, nanoseconds_times, Int.natCast_add, Int.natCast_one, Int.mul_add,
    Int.mul_one] at *
  -- The multiples before have the sign of the step.
  rcases Int.le_total 0 step.nanoseconds with forward | backward
  · have nonneg := Int.mul_nonneg forward (Int.natCast_nonneg before)
    omega
  · have nonpos := Int.mul_nonpos_of_nonpos_of_nonneg backward (Int.natCast_nonneg before)
    omega

end Duration

/-! ## Operations -/

namespace Bounded

/-- Lead of a valid time, if it is representable. -/
def lead (basis valid : Instant) : Option Duration :=
  if (Instant.lead basis valid).Within .longest then some (Instant.lead basis valid)
  else none

/-- Difference of durations, if it is representable. -/
def sub (left right : Duration) : Option Duration :=
  if (left - right).Within .longest then some (left - right) else none

/-- Multiple of a duration, if its seconds fit. -/
def times (duration : Duration) (count : Nat) : Option Duration :=
  if (duration.times count).FitsSeconds then some (duration.times count) else none

/-- The next multiple, if it can be counted. -/
def next (multiple : Nat) : Option Nat :=
  if multiple < greatestInt32 then some (multiple + 1) else none

theorem lead_eq {basis valid : Instant} (basisBounds : basis.Representable)
    (validBounds : valid.Representable) : lead basis valid = some (Instant.lead basis valid) :=
  if_pos (basisBounds.within_reach validBounds).of_reach

theorem sub_eq {left right : Duration} (leftShort : left.Within Instant.reach)
    (rightShort : right.Within Instant.reach) : sub left right = some (left - right) :=
  if_pos (leftShort.sub rightShort)

/-- The longest duration can be taken 999 times, but not a thousand times. -/
example :
    (times Duration.longest 999).isSome = true ∧ (times Duration.longest 1000).isSome = false := by
  decide

end Bounded

end Forecast
