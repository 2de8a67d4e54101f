import Forecast.Proofs.Series.Reachable
import Forecast.Proofs.Series.Views

/-!
# Lookup by lead

An issuance is searched for the event at a lead by bisection of its events, as if their leads
ascended with their times.  Where they do, which is so away from leap seconds, the search finds what
walking through the leads finds: the one event at the lead, if there is one.  Gathering the events
at a lead then keeps just the issuances that have one.  Where leads do not ascend, some lookup
fails.
-/

namespace Forecast

namespace Issuance

variable {α : Type} {issuance : Issuance α} {issuances : List (Issuance α)} {lead : Duration}

/-- Walk through the leads up to the one sought, and take the event there. -/
def scan? (issuance : Issuance α) (lead : Duration) : Option (Event α) := do
  let position ← issuance.leads.findIdx? (· == lead)
  issuance.events[position]?

/-- Lookups by lead give just what there is. -/
structure LooksUp (issuance : Issuance α) (lead : Duration) : Prop where
  /-- What is found is an event at the lead, and any such event is found. -/
  found : ∀ event, issuance.eventAt? lead = some event ↔
    event ∈ issuance.events ∧ Instant.lead issuance.basis event.time = lead
  /-- It is the only one. -/
  unique : issuance.events.filter (fun event => Instant.lead issuance.basis event.time == lead)
    = (issuance.eventAt? lead).toList
  /-- Nothing is found just if there is none. -/
  missing : issuance.eventAt? lead = none ↔
    ∀ event ∈ issuance.events, Instant.lead issuance.basis event.time ≠ lead
  /-- Walking through the leads gives the same. -/
  scan : issuance.eventAt? lead = issuance.scan? lead

theorem isSome_eventAt?_iff (ascend : issuance.LeadsAscend) :
    (issuance.eventAt? lead).isSome ↔ lead ∈ issuance.leads := by
  simp only [Option.isSome_iff_exists, eventAt?_eq_some_iff ascend, leads, List.mem_map]

/-- Walking through the leads finds the first event at the lead. -/
theorem scan?_eq_find? (issuance : Issuance α) (lead : Duration) :
    issuance.scan? lead = issuance.events.find? fun event => issuance.leadOf event == lead := by
  rw [scan?, leads, List.findIdx?_map, List.find?_eq_bind_findIdx?_getElem?]
  rfl

theorem eventAt?_eq_scan? (ascend : issuance.LeadsAscend) (lead : Duration) :
    issuance.eventAt? lead = issuance.scan? lead := by
  calc
    issuance.eventAt? lead = (issuance.eventAt? lead).toList.head? := by
      cases issuance.eventAt? lead <;> rfl
    _ = (issuance.events.filter fun event => issuance.leadOf event == lead).head? := by
      rw [toList_eventAt? ascend]
    _ = issuance.scan? lead := by rw [List.head?_filter, scan?_eq_find?]

theorem LeadsAscend.looksUp (ascend : issuance.LeadsAscend) (lead : Duration) :
    issuance.LooksUp lead where
  found _ := eventAt?_eq_some_iff ascend
  unique := (toList_eventAt? ascend lead).symm
  missing := by
    rw [← Option.not_isSome_iff_eq_none, isSome_eventAt?_iff ascend, leads, List.mem_map]
    simp [leadOf]
  scan := eventAt?_eq_scan? ascend lead

/-- Lookups by all leads give what there is just where leads ascend. -/
theorem looksUp_iff (ascending : Ascending issuance.events) :
    (∀ lead, issuance.LooksUp lead) ↔ issuance.LeadsAscend := by
  refine ⟨fun looksUp => ?_, LeadsAscend.looksUp⟩
  rw [← eventAt?_leadOf_iff ascending]
  exact fun event member => ((looksUp _).found event).mpr ⟨member, rfl⟩

/-! ## Gathering -/

/-- An issuance is left with just an event at a lead. -/
def IsReduced (lead : Duration) (old new : Issuance α) : Prop :=
  ∃ event ∈ old.events, Instant.lead old.basis event.time = lead ∧ new = ⟨old.basis, [event]⟩

/-- The issuances with an event at a lead are left, in order, each with this event. -/
theorem forall₂_changed_eventAt?
    (ascend : ∀ issuance ∈ issuances, issuance.LeadsAscend) (lead : Duration) :
    List.Forall₂ (IsReduced lead)
      (issuances.filter fun issuance => lead ∈ issuance.leads)
      (changed (fun issuance => (issuance.eventAt? lead).toList) issuances) := by
  induction issuances with
  | nil => exact .nil
  | cons issuance rest ih =>
    obtain ⟨here, later⟩ := List.forall_mem_cons.mp ascend
    have isLead : (issuance.eventAt? lead).isSome ↔ lead ∈ issuance.leads :=
      isSome_eventAt?_iff here
    rw [changed_cons]
    cases found : issuance.eventAt? lead with
    | none =>
      rw [found, Option.isSome_none] at isLead
      rw [List.filter_cons_of_neg (by simp [← isLead])]
      exact ih later
    | some event =>
      obtain ⟨member, atLead⟩ := (eventAt?_eq_some_iff here).mp found
      rw [found, Option.isSome_some] at isLead
      rw [List.filter_cons_of_pos (by simp [← isLead])]
      exact .cons ⟨event, member, atLead, rfl⟩ (ih later)

end Issuance

namespace Storage

variable {α β : Type} {storage : Storage α} {lead : Duration}

theorem rebuild_eq_none_iff {change : Issuance α → List (Event β)} :
    storage.rebuild change = none ↔ Issuance.changed change storage.issuances = [] := by
  rw [Option.eq_none_iff_forall_ne_some]
  simp [rebuild_eq_some_iff]

/-- The event at a lead from every issuance that has one. -/
def gatherAt? (storage : Storage α) (lead : Duration) : Option (Storage α) :=
  storage.rebuild fun issuance => (issuance.eventAt? lead).toList

/-- What is gathered at a lead is just what there is. -/
structure Gathers (storage : Storage α) (lead : Duration) : Prop where
  /-- Nothing is gathered just if no issuance has an event at the lead. -/
  missing : storage.gatherAt? lead = none ↔
    ∀ issuance ∈ storage.issuances, ∀ event ∈ issuance.events,
      Instant.lead issuance.basis event.time ≠ lead
  /-- Issuances with an event at the lead are kept in order, each with just this event. -/
  kept : ∀ result, storage.gatherAt? lead = some result →
    List.Forall₂ (Issuance.IsReduced lead)
      (storage.issuances.filter fun issuance => lead ∈ issuance.leads) result.issuances

theorem gathers_of_leadsAscend
    (ascend : ∀ issuance ∈ storage.issuances, issuance.LeadsAscend) (lead : Duration) :
    storage.Gathers lead := by
  have left := Issuance.forall₂_changed_eventAt? ascend lead
  constructor
  · rw [gatherAt?, rebuild_eq_none_iff, ← List.length_eq_zero_iff, ← left.length_eq,
      List.length_eq_zero_iff, List.filter_eq_nil_iff]
    simp [Issuance.leads, Issuance.leadOf]
  · intro result gathered
    obtain ⟨-, rfl⟩ := rebuild_eq_some_iff.mp gathered
    rw [issuances_ofIssuances]
    exact left

end Storage

namespace TimeSeries

variable {α : Type} [Sample α] {series : TimeSeries α}

/-- Events before, at and after the time of issue, those of a second issuance and of a baseline. -/
def earlyEvents : List (Contribution Binary64) :=
  [.events (.zeros 10 [4, 7, 10, 12, 19]), .events (.zeros 20 [20, 21]), .events (.zeros 30 [27]),
    .baseline (.zeros 10 [11])]

end TimeSeries

end Forecast
