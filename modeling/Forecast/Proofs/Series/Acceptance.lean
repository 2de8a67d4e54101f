import Forecast.Proofs.Collection.Traversal
import Forecast.Series.Builder
import Mathlib.Data.List.Basic
import Mathlib.Logic.Unique

/-!
# Accepted issuances

An issuance is accepted just when it has events, they ascend strictly in valid time, and they agree
in the width of their ensembles.  Otherwise the check names the first of these faults, at the first
event that shows it, and a list of issuances is refused for its first faulty member.
-/

namespace Forecast

namespace Issuance

variable {α : Type}

/-- Valid times ascend strictly. -/
def Ascending (events : List (Event α)) : Prop :=
  events.Pairwise fun earlier later => earlier.time < later.time

/-- Width of an event, zero where there is no ensemble. -/
def widthOf [Sample α] (event : Event α) : Nat := (Sample.memberCount event.value).getD 0

/-- If the first event has an ensemble, every event has an ensemble of the same width. -/
def WidthsAgree [Sample α] (events : List (Event α)) : Prop :=
  ∀ first ∈ events.head?, ∀ width ∈ Sample.memberCount first.value,
    ∀ event ∈ events, widthOf event = width

/-- What is asked of an issuance. -/
structure Valid [Sample α] (issuance : Issuance α) : Prop where
  /-- There are events. -/
  nonempty : issuance.events ≠ []
  /-- Valid times ascend strictly. -/
  ascending : Ascending issuance.events
  /-- Ensembles agree in width. -/
  widths : WidthsAgree issuance.events

/-- What is wrong with an issuance, at the first event that shows it. -/
inductive Fault [Sample α] (issuance : Issuance α) : DataError → Prop where
  | noEvents (missing : issuance.events = []) : Fault issuance (.emptySeries issuance.basis)
  /-- An event is not later than the one before it. -/
  | unordered {before after : List (Event α)} {earlier later : Event α}
      (split : issuance.events = before ++ earlier :: later :: after)
      (ascending : Ascending (before ++ [earlier])) (descends : later.time ≤ earlier.time) :
      Fault issuance (.unorderedEvents issuance.basis later.time)
  /-- An event is not as wide as the first. -/
  | otherWidth {before after : List (Event α)} {first event : Event α} {width : Nat}
      (ascending : Ascending issuance.events) (isFirst : issuance.events.head? = some first)
      (hasWidth : Sample.memberCount first.value = some width)
      (split : issuance.events = before ++ event :: after)
      (agree : ∀ earlier ∈ before, widthOf earlier = width) (differs : widthOf event ≠ width) :
      Fault issuance (.ensembleWidthMismatch issuance.basis width (widthOf event))

/-! ## Order of events -/

theorem ascending_cons_cons {first second : Event α} {rest : List (Event α)} :
    Ascending (first :: second :: rest) ↔
      first.time < second.time ∧ Ascending (second :: rest) := by
  simp only [Ascending, List.pairwise_cons (a := first)]
  constructor
  · rintro ⟨below, ascending⟩
    exact ⟨below second List.mem_cons_self, ascending⟩
  · rintro ⟨less, ascending⟩
    refine ⟨fun event member => ?_, ascending⟩
    rcases List.mem_cons.mp member with rfl | later
    · exact less
    · exact Instant.lt_trans less (List.rel_of_pairwise_cons ascending later)

theorem firstUnordered?_eq_none_iff {events : List (Event α)} :
    firstUnordered? events = none ↔ Ascending events := by
  fun_induction firstUnordered? events with
  | case1 first second rest descends =>
    have notLess : ¬first.time < second.time := Instant.not_lt.mpr descends
    simp [ascending_cons_cons, notLess]
  | case2 first second rest ascends ih =>
    have less : first.time < second.time := Instant.not_le.mp ascends
    simp [ih, ascending_cons_cons, less]
  | case3 events short =>
    match events, short with
    | [], _ => simp [Ascending]
    | [only], _ => simp [Ascending]
    | first :: second :: rest, short => exact absurd rfl (short first second rest)

theorem exists_of_firstUnordered? {events : List (Event α)} {valid : Instant}
    (found : firstUnordered? events = some valid) :
    ∃ before earlier later after, events = before ++ earlier :: later :: after
      ∧ Ascending (before ++ [earlier]) ∧ later.time ≤ earlier.time ∧ valid = later.time := by
  fun_induction firstUnordered? events with
  | case1 first second rest descends =>
    obtain rfl := Option.some.inj found
    exact ⟨[], first, second, rest, rfl, by simp [Ascending], descends, rfl⟩
  | case2 first second rest ascends ih =>
    obtain ⟨before, earlier, later, after, split, ascending, descends, rfl⟩ := ih found
    refine ⟨first :: before, earlier, later, after, by rw [split]; rfl, ?_, descends, rfl⟩
    have less : first.time < second.time := Instant.not_le.mp ascends
    cases before with
    | nil =>
      obtain ⟨rfl, -⟩ := List.cons.inj split
      exact ascending_cons_cons.mpr ⟨less, ascending⟩
    | cons next before =>
      obtain ⟨rfl, -⟩ := List.cons.inj split
      exact ascending_cons_cons.mpr ⟨less, ascending⟩
  | case3 => simp at found

theorem firstUnordered?_append {before after : List (Event α)} {earlier later : Event α}
    (ascending : Ascending (before ++ [earlier])) (descends : later.time ≤ earlier.time) :
    firstUnordered? (before ++ earlier :: later :: after) = some later.time := by
  induction before with
  | nil => simp [firstUnordered?, descends]
  | cons first before ih =>
    have rest : Ascending (before ++ [earlier]) := List.Pairwise.of_cons ascending
    cases before with
    | nil =>
      have less := (ascending_cons_cons.mp ascending).1
      rw [← ih rest]
      exact if_neg (Instant.not_le.mpr less)
    | cons second before =>
      have less := (ascending_cons_cons.mp ascending).1
      rw [← ih rest]
      exact if_neg (Instant.not_le.mpr less)

/-! ## Widths of ensembles -/

section

variable [Sample α]

theorem firstOtherWidth?_eq_none_iff {expected : Nat} {events : List (Event α)} :
    firstOtherWidth? expected events = none ↔ ∀ event ∈ events, widthOf event = expected := by
  simp [firstOtherWidth?, widthOf]

theorem firstOtherWidth?_eq_some_iff {expected actual : Nat} {events : List (Event α)} :
    firstOtherWidth? expected events = some actual ↔
      ∃ before event after, events = before ++ event :: after
        ∧ (∀ earlier ∈ before, widthOf earlier = expected)
        ∧ widthOf event ≠ expected ∧ actual = widthOf event := by
  induction events with
  | nil => simp [firstOtherWidth?]
  | cons first rest ih =>
    rw [exists_split_cons_iff, ← ih]
    by_cases agrees : widthOf first = expected
    · have skipped : firstOtherWidth? expected (first :: rest) = firstOtherWidth? expected rest :=
        List.find?_cons_of_neg (by simpa [widthOf] using agrees)
      rw [skipped]
      simp [agrees]
    · have found : firstOtherWidth? expected (first :: rest) = some (widthOf first) :=
        List.find?_cons_of_pos (by simpa [widthOf] using agrees)
      rw [found]
      simp [agrees, eq_comm]

/-! ## The check -/

theorem check_eq_ok_of_valid {issuance : Issuance α} (valid : issuance.Valid) :
    issuance.check = .ok () := by
  obtain ⟨basis, events⟩ := issuance
  obtain ⟨nonempty, ascending, widths⟩ := valid
  cases events with
  | nil => exact absurd rfl nonempty
  | cons first rest =>
    simp only [check, firstUnordered?_eq_none_iff.mpr ascending]
    cases count : Sample.memberCount first.value with
    | none => rfl
    | some width =>
      have same : firstOtherWidth? width (first :: rest) = none :=
        firstOtherWidth?_eq_none_iff.mpr (widths first rfl width count)
      simp only [same]
      rfl

theorem fault_of_check_eq_error {issuance : Issuance α} {cause : DataError}
    (refused : issuance.check = .error cause) : issuance.Fault cause := by
  obtain ⟨basis, events⟩ := issuance
  cases events with
  | nil =>
    cases refused
    exact .noEvents rfl
  | cons first rest =>
    cases unordered : firstUnordered? (first :: rest) with
    | some valid =>
      simp only [check, unordered] at refused
      cases refused
      obtain ⟨before, earlier, later, after, split, ascending, descends, rfl⟩ :=
        exists_of_firstUnordered? unordered
      exact .unordered split ascending descends
    | none =>
      simp only [check, unordered] at refused
      cases count : Sample.memberCount first.value with
      | none => simp [count, pure, Except.pure] at refused
      | some width =>
        simp only [count] at refused
        cases other : firstOtherWidth? width (first :: rest) with
        | none => simp [other, pure, Except.pure] at refused
        | some actual =>
          simp only [other] at refused
          cases refused
          obtain ⟨before, event, after, split, agree, differs, rfl⟩ :=
            firstOtherWidth?_eq_some_iff.mp other
          exact .otherWidth (firstUnordered?_eq_none_iff.mp unordered) rfl count split agree differs

theorem check_eq_error_of_fault {issuance : Issuance α} {cause : DataError}
    (fault : issuance.Fault cause) : issuance.check = .error cause := by
  obtain ⟨basis, events⟩ := issuance
  cases fault with
  | noEvents missing =>
    obtain rfl : events = [] := missing
    rfl
  | @unordered before after earlier later split ascending descends =>
    obtain rfl : events = before ++ earlier :: later :: after := split
    have found : firstUnordered? (before ++ earlier :: later :: after) = some later.time :=
      firstUnordered?_append ascending descends
    cases before <;> simp only [check, List.nil_append, List.cons_append] at found ⊢ <;>
      rw [found] <;> rfl
  | @otherWidth before after first event width ascending isFirst hasWidth split agree differs =>
    obtain ⟨rest, rfl⟩ : ∃ rest, events = first :: rest := List.head?_eq_some_iff.mp isFirst
    have found :=
      firstOtherWidth?_eq_some_iff.mpr ⟨before, event, after, split, agree, differs, rfl⟩
    simp only [check, firstUnordered?_eq_none_iff.mpr ascending, hasWidth, found]
    rfl

/-- A check refuses an issuance just for the first of its faults. -/
theorem check_eq_error_iff {issuance : Issuance α} {cause : DataError} :
    issuance.check = .error cause ↔ issuance.Fault cause :=
  ⟨fault_of_check_eq_error, check_eq_error_of_fault⟩

theorem valid_of_check_eq_ok {issuance : Issuance α} (accepted : issuance.check = .ok ()) :
    issuance.Valid := by
  have flawless {cause : DataError} : ¬issuance.Fault cause := by
    intro fault
    rw [check_eq_error_of_fault fault] at accepted
    cases accepted
  obtain ⟨basis, events⟩ := issuance
  cases events with
  | nil => exact absurd (.noEvents rfl) flawless
  | cons first rest =>
    have ascending : Ascending (first :: rest) := by
      rw [← firstUnordered?_eq_none_iff]
      by_contra unordered
      obtain ⟨valid, found⟩ := Option.ne_none_iff_exists'.mp unordered
      obtain ⟨before, earlier, later, after, split, ascending, descends, -⟩ :=
        exists_of_firstUnordered? found
      exact flawless (.unordered split ascending descends)
    refine ⟨by simp, ascending, ?_⟩
    intro head isHead width hasWidth
    rw [← firstOtherWidth?_eq_none_iff]
    by_contra other
    obtain ⟨actual, found⟩ := Option.ne_none_iff_exists'.mp other
    obtain ⟨before, event, after, split, agree, differs, -⟩ :=
      firstOtherWidth?_eq_some_iff.mp found
    exact flawless (.otherWidth ascending isHead hasWidth split agree differs)

/-- A check accepts just the valid issuances. -/
theorem check_eq_ok_iff {issuance : Issuance α} : issuance.check = .ok () ↔ issuance.Valid :=
  ⟨valid_of_check_eq_ok, check_eq_ok_of_valid⟩

theorem checkAll_cons (issuance : Issuance α) (rest : List (Issuance α)) :
    checkAll (issuance :: rest) = (issuance.check >>= fun _ => checkAll rest) := rfl

theorem checkAll_append (first second : List (Issuance α)) :
    checkAll (first ++ second) = (checkAll first >>= fun _ => checkAll second) := by
  induction first with
  | nil => rfl
  | cons issuance rest ih =>
    rw [List.cons_append, checkAll_cons, checkAll_cons, ih]
    cases issuance.check <;> rfl

theorem checkAll_eq_ok_iff {issuances : List (Issuance α)} :
    checkAll issuances = .ok () ↔ ∀ issuance ∈ issuances, issuance.Valid := by
  induction issuances with
  | nil => simp [checkAll, pure, Except.pure]
  | cons issuance rest ih =>
    rw [checkAll_cons, bind_eq_ok_iff, Unique.exists_iff, List.forall_mem_cons, ← check_eq_ok_iff,
      ← ih, PUnit.default_eq_unit]

/-- A list is refused for its first faulty issuance. -/
theorem checkAll_eq_error_iff {issuances : List (Issuance α)} {cause : DataError} :
    checkAll issuances = .error cause ↔
      ∃ before issuance after, issuances = before ++ issuance :: after
        ∧ (∀ earlier ∈ before, earlier.Valid) ∧ issuance.Fault cause := by
  induction issuances with
  | nil => simp [checkAll, pure, Except.pure]
  | cons first rest ih =>
    rw [exists_split_cons_iff, checkAll_cons, bind_eq_error_iff, Unique.exists_iff, ← ih,
      ← check_eq_error_iff, ← check_eq_ok_iff, PUnit.default_eq_unit]

end

/-- An issuance of zeros, all times in nanoseconds. -/
def zeros (basis : Int) (times : List Int) : Issuance Binary64 :=
  ⟨.ofNanoseconds basis, times.map fun time => ⟨.ofNanoseconds time, .zero⟩⟩

end Issuance

end Forecast
