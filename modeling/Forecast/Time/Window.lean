import Forecast.Time.Text

/-!
# Time windows

A window bounds the reference time at which a forecast was issued, the valid time of an event and
the lead between them.  All bounds are inclusive.
-/

namespace Forecast

/-- Bounds on reference times, valid times and leads. -/
structure TimeWindow where
  earliestReference : Instant
  latestReference : Instant
  earliestValid : Instant
  latestValid : Instant
  earliestLead : Duration
  latestLead : Duration
deriving DecidableEq, Inhabited

namespace TimeWindow

/-- The window of all times at lead zero. -/
def unbounded : TimeWindow :=
  { earliestReference := Instant.earliest
    latestReference := Instant.latest
    earliestValid := Instant.earliest
    latestValid := Instant.latest
    earliestLead := Duration.zero
    latestLead := Duration.zero }

/-- The window of all times with the same bounds on leads. -/
def leadBounds (window : TimeWindow) : TimeWindow :=
  { unbounded with
    earliestLead := window.earliestLead
    latestLead := window.latestLead }

/-- Whether two windows have the same bounds on leads. -/
def sameLeads (left right : TimeWindow) : Bool :=
  left.earliestLead == right.earliestLead && left.latestLead == right.latestLead

/-- Whether a lead lies in the window. -/
def containsLead (window : TimeWindow) (lead : Duration) : Bool :=
  decide (window.earliestLead ≤ lead ∧ lead ≤ window.latestLead)

/-- Whether an event, issued at `basis` and valid at `valid`, lies in the window. -/
def contains (window : TimeWindow) (basis valid : Instant) : Bool :=
  decide (window.earliestReference ≤ basis ∧ basis ≤ window.latestReference
    ∧ window.earliestValid ≤ valid ∧ valid ≤ window.latestValid)
    && window.containsLead (Instant.lead basis valid)

/-- Whether a bound on reference times is at the end of time. -/
def hasUnboundedReference (window : TimeWindow) : Bool :=
  window.earliestReference == Instant.earliest || window.latestReference == Instant.latest

/-- Whether a bound on valid times is at the end of time. -/
def hasUnboundedValid (window : TimeWindow) : Bool :=
  window.earliestValid == Instant.earliest || window.latestValid == Instant.latest

/-- No latest bound lies before its earliest bound. -/
def Valid (window : TimeWindow) : Prop :=
  window.earliestReference ≤ window.latestReference
    ∧ window.earliestValid ≤ window.latestValid
    ∧ window.earliestLead ≤ window.latestLead

instance (window : TimeWindow) : Decidable window.Valid :=
  inferInstanceAs (Decidable (_ ∧ _ ∧ _))

/-- Every bound of `outer` is at or beyond the bound of `inner`. -/
def Covers (outer inner : TimeWindow) : Prop :=
  outer.earliestReference ≤ inner.earliestReference
    ∧ inner.latestReference ≤ outer.latestReference
    ∧ outer.earliestValid ≤ inner.earliestValid
    ∧ inner.latestValid ≤ outer.latestValid
    ∧ outer.earliestLead ≤ inner.earliestLead
    ∧ inner.latestLead ≤ outer.latestLead

/-- The smallest window that covers two windows. -/
def join (left right : TimeWindow) : TimeWindow :=
  { earliestReference := left.earliestReference.min right.earliestReference
    latestReference := left.latestReference.max right.latestReference
    earliestValid := left.earliestValid.min right.earliestValid
    latestValid := left.latestValid.max right.latestValid
    earliestLead := left.earliestLead.min right.earliestLead
    latestLead := left.latestLead.max right.latestLead }

/-- Order by the bounds in turn, each earliest one before its latest one. -/
def compare (left right : TimeWindow) : Ordering :=
  (Ord.compare left.earliestReference right.earliestReference).then <|
  (Ord.compare left.latestReference right.latestReference).then <|
  (Ord.compare left.earliestValid right.earliestValid).then <|
  (Ord.compare left.latestValid right.latestValid).then <|
  (Ord.compare left.earliestLead right.earliestLead).then <|
  Ord.compare left.latestLead right.latestLead

instance : Ord TimeWindow := ⟨compare⟩

/-- The six bounds in brackets. -/
def text (window : TimeWindow) : String :=
  "[" ++ ",".intercalate
    [window.earliestReference.rfc3339, window.latestReference.rfc3339,
      window.earliestValid.rfc3339, window.latestValid.rfc3339,
      window.earliestLead.text, window.latestLead.text] ++ "]"

instance : Std.TransOrd TimeWindow :=
  inferInstanceAs <| Std.TransCmp <|
    compareLex (compareOn earliestReference) <| compareLex (compareOn latestReference) <|
    compareLex (compareOn earliestValid) <| compareLex (compareOn latestValid) <|
    compareLex (compareOn earliestLead) (compareOn latestLead)

instance : Std.LawfulEqOrd TimeWindow where
  eq_of_compare {left right} equal := by
    change TimeWindow.compare left right = .eq at equal
    simp only [TimeWindow.compare, Ordering.then_eq_eq, Std.compare_eq_iff_eq] at equal
    cases left
    cases right
    simpa using equal

theorem contains_iff {window : TimeWindow} {basis valid : Instant} :
    window.contains basis valid = true ↔
      (window.earliestReference ≤ basis ∧ basis ≤ window.latestReference
        ∧ window.earliestValid ≤ valid ∧ valid ≤ window.latestValid)
        ∧ window.earliestLead ≤ Instant.lead basis valid
        ∧ Instant.lead basis valid ≤ window.latestLead := by
  simp [contains, containsLead]

end TimeWindow

end Forecast
