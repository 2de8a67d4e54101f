import Forecast.Series.Builder
import Mathlib.Data.List.Basic

/-!
# Gathering contributions

Contributing issuances one after the other gathers them by basis time: the basis times stand in the
order of their first contribution, each with all events contributed to it in the order of the
contributions.
-/

namespace Forecast.Issuance

variable {α : Type}

/-- Everything contributed to a basis time, in order. -/
def gatheredEvents (contributions : List (Issuance α)) (basis : Instant) : List (Event α) :=
  (contributions.filter fun issuance => issuance.basis = basis).flatMap events

/-- One issuance for each basis time, in the order of first contributions. -/
def gather (contributions : List (Issuance α)) : List (Issuance α) :=
  (contributions.map basis).eraseDups.map fun basis => ⟨basis, gatheredEvents contributions basis⟩

theorem mem_gatheredEvents {contributions : List (Issuance α)} {known : Instant}
    {event : Event α} :
    event ∈ gatheredEvents contributions known ↔
      ∃ issuance ∈ contributions, issuance.basis = known ∧ event ∈ issuance.events := by
  simp [gatheredEvents, and_assoc]

theorem gatheredEvents_append (front back : List (Issuance α)) (basis : Instant) :
    gatheredEvents (front ++ back) basis
      = gatheredEvents front basis ++ gatheredEvents back basis := by
  rw [gatheredEvents, List.filter_append, List.flatMap_append, gatheredEvents, gatheredEvents]

theorem gatheredEvents_singleton (issuance : Issuance α) (basis : Instant) :
    gatheredEvents [issuance] basis = if issuance.basis = basis then issuance.events else [] := by
  by_cases same : issuance.basis = basis <;> simp [gatheredEvents, same]

theorem gatheredEvents_of_absent {contributions : List (Issuance α)} {known : Instant}
    (absent : known ∉ contributions.map basis) : gatheredEvents contributions known = [] := by
  rw [gatheredEvents, List.filter_eq_nil_iff.mpr, List.flatMap_nil]
  intro other member
  simp only [decide_eq_true_eq]
  exact fun same => absent (List.mem_map.mpr ⟨other, member, same⟩)

/-- Where no basis time occurs twice, nothing is added to the events of an issuance. -/
theorem gatheredEvents_of_mem {contributions : List (Issuance α)}
    (distinct : (contributions.map basis).Nodup) {issuance : Issuance α}
    (member : issuance ∈ contributions) :
    gatheredEvents contributions issuance.basis = issuance.events := by
  induction contributions with
  | nil => cases member
  | cons first rest ih =>
    obtain ⟨fresh, restDistinct⟩ := List.nodup_cons.mp distinct
    rw [← List.singleton_append, gatheredEvents_append, gatheredEvents_singleton]
    rcases List.mem_cons.mp member with rfl | later
    · rw [if_pos rfl, gatheredEvents_of_absent fresh, List.append_nil]
    · have differs : first.basis ≠ issuance.basis :=
        fun same => fresh (same ▸ List.mem_map_of_mem later)
      rw [if_neg differs, List.nil_append, ih restDistinct later]

/-- Where every contribution has events, so has every gathered issuance. -/
theorem gatheredEvents_ne_nil {contributions : List (Issuance α)}
    (events : ∀ issuance ∈ contributions, issuance.events ≠ []) {known : Instant}
    (member : known ∈ contributions.map basis) : gatheredEvents contributions known ≠ [] := by
  obtain ⟨issuance, contributed, rfl⟩ := List.mem_map.mp member
  obtain ⟨event, inEvents⟩ := List.exists_mem_of_ne_nil _ (events issuance contributed)
  exact List.ne_nil_of_mem (mem_gatheredEvents.mpr ⟨issuance, contributed, rfl, inEvents⟩)

theorem mem_gather {contributions : List (Issuance α)} {issuance : Issuance α} :
    issuance ∈ gather contributions ↔
      issuance.basis ∈ contributions.map basis
        ∧ issuance.events = gatheredEvents contributions issuance.basis := by
  rw [gather, List.mem_map]
  constructor
  · rintro ⟨known, member, rfl⟩
    exact ⟨List.mem_eraseDups.mp member, rfl⟩
  · rintro ⟨member, events⟩
    exact ⟨issuance.basis, List.mem_eraseDups.mpr member, by rw [← events]⟩

/-- Further contributions are gathered behind the events of an issuance. -/
theorem mem_gather_append {front : List (Issuance α)} {issuance : Issuance α}
    (member : issuance ∈ gather front) (back : List (Issuance α)) :
    ⟨issuance.basis, issuance.events ++ gatheredEvents back issuance.basis⟩
      ∈ gather (front ++ back) := by
  obtain ⟨known, events⟩ := mem_gather.mp member
  rw [mem_gather, List.map_append, gatheredEvents_append, ← events]
  exact ⟨List.mem_append_left _ known, rfl⟩

theorem gather_eq_nil_iff {contributions : List (Issuance α)} :
    gather contributions = [] ↔ contributions = [] := by
  cases contributions <;> simp [gather, List.eraseDups_cons]

theorem map_basis_gather (contributions : List (Issuance α)) :
    (gather contributions).map basis = (contributions.map basis).eraseDups := by
  simp [gather, Function.comp_def]

theorem nodup_eraseDups {κ : Type} [BEq κ] [LawfulBEq κ] (items : List κ) :
    items.eraseDups.Nodup := by
  match items with
  | [] => exact List.nodup_nil
  | item :: rest =>
    have shorter : (rest.filter fun other => !other == item).length < rest.length + 1 :=
      Nat.lt_succ_of_le (List.length_filter_le _ _)
    rw [List.eraseDups_cons, List.nodup_cons]
    exact ⟨by simp [List.mem_eraseDups], nodup_eraseDups _⟩
termination_by items.length

theorem eraseDups_of_nodup {κ : Type} [BEq κ] [LawfulBEq κ] {items : List κ}
    (distinct : items.Nodup) : items.eraseDups = items := by
  induction items with
  | nil => rfl
  | cons item rest ih =>
    obtain ⟨fresh, restDistinct⟩ := List.nodup_cons.mp distinct
    have kept : (rest.filter fun other => !other == item) = rest := by
      rw [List.filter_eq_self]
      intro other member
      have differs : other ≠ item := fun same => fresh (same ▸ member)
      simp [differs]
    rw [List.eraseDups_cons, kept, ih restDistinct]

private theorem contribute_map (basis : Instant) (events : List (Event α)) {bases : List Instant}
    (distinct : bases.Nodup) {gathered : Instant → List (Event α)}
    (fresh : basis ∉ bases → gathered basis = []) :
    contribute basis events (bases.map fun known => ⟨known, gathered known⟩)
      = (if basis ∈ bases then bases else bases ++ [basis]).map fun known =>
          ⟨known, gathered known ++ if known = basis then events else []⟩ := by
  induction bases with
  | nil => simp [contribute, fresh]
  | cons first rest ih =>
    obtain ⟨firstNew, restDistinct⟩ := List.nodup_cons.mp distinct
    rw [List.map_cons, contribute]
    by_cases same : first = basis
    · subst same
      have unchanged : (rest.map fun known => (⟨known, gathered known⟩ : Issuance α))
          = rest.map fun known =>
            ⟨known, gathered known ++ if known = first then events else []⟩ := by
        refine List.map_congr_left fun known member => ?_
        have differs : known ≠ first := fun equal => firstNew (equal ▸ member)
        simp [differs]
      simp [unchanged]
    · have known : basis ∈ first :: rest ↔ basis ∈ rest := by simp [Ne.symm same]
      rw [if_neg same, ih restDistinct fun absent => fresh (mt known.mp absent)]
      by_cases present : basis ∈ rest <;> simp [present, Ne.symm same, same]

private theorem eraseDups_concat {κ : Type} [DecidableEq κ] (items : List κ) (item : κ) :
    (items ++ [item]).eraseDups
      = if item ∈ items.eraseDups then items.eraseDups else items.eraseDups ++ [item] := by
  rw [List.eraseDups_append]
  by_cases known : item ∈ items
  · simp [List.mem_eraseDups, known, List.removeAll]
  · simp [List.mem_eraseDups, known, List.removeAll, List.eraseDups_cons]

/-- A further contribution is gathered behind all others. -/
theorem contribute_gather (contributions : List (Issuance α)) (issuance : Issuance α) :
    contribute issuance.basis issuance.events (gather contributions)
      = gather (contributions ++ [issuance]) := by
  have fresh (absent : issuance.basis ∉ (contributions.map basis).eraseDups) :
      gatheredEvents contributions issuance.basis = [] :=
    gatheredEvents_of_absent (mt List.mem_eraseDups.mpr absent)
  rw [gather, contribute_map _ _ (nodup_eraseDups _) fresh, gather, List.map_append,
    List.map_singleton, eraseDups_concat]
  refine List.map_congr_left fun known _ => ?_
  rw [gatheredEvents_append, gatheredEvents_singleton]
  simp only [eq_comm (a := known)]

theorem contributeAll_gather (contributions issuances : List (Issuance α)) :
    contributeAll issuances (gather contributions) = gather (contributions ++ issuances) := by
  induction issuances generalizing contributions with
  | nil => simp [contributeAll]
  | cons issuance rest ih =>
    rw [contributeAll, List.foldl_cons, contribute_gather]
    simpa [contributeAll] using ih (contributions ++ [issuance])

/-- Issuances of different basis times are gathered already. -/
theorem gather_eq_self {issuances : List (Issuance α)}
    (distinct : (issuances.map basis).Nodup) : gather issuances = issuances := by
  rw [gather, eraseDups_of_nodup distinct, List.map_map]
  calc
    _ = issuances.map id := List.map_congr_left fun issuance member => by
      rw [Function.comp_apply, gatheredEvents_of_mem distinct member]
      rfl
    _ = issuances := List.map_id _

/-- What has been gathered stands for its contributions among further ones. -/
theorem gather_gather_append (front back : List (Issuance α)) :
    gather (gather front ++ back) = gather (front ++ back) := by
  have once : gather (gather front) = gather front := by
    apply gather_eq_self
    rw [map_basis_gather]
    exact nodup_eraseDups _
  rw [← contributeAll_gather, once, contributeAll_gather]

end Forecast.Issuance
