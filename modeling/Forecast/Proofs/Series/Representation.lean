import Forecast.Proofs.Series.Items
import Forecast.Proofs.Series.Layout
import Forecast.Proofs.Series.Reachable
import Forecast.Proofs.Series.Uniform
import Mathlib.Algebra.GroupWithZero.Nat

/-!
# Representation of reachable series

Series share their buffers with the series that they are taken from.  Whatever the steps by which a
series came about, its buffer and its table of spans represent its issuances: spans are read in
full, walking through the events is walking through the issuances in order, and basis times and
leads are those of the issuances, in ascending order.
-/

namespace Forecast

-- Only narrowing needs the layout that was there before; the other steps lay issuances out afresh.
mutual

theorem TimeSeries.Reachable.contiguous :
    ∀ {α : Type} {_ : Sample α} {series : TimeSeries α}, series.Reachable → series.Contiguous
  | _, _, _, .build built => .of_build built
  | _, _, _, .baseline before taken => before.contiguous.baselineSeries? taken
  | _, _, _, .filterByBasis _ _ kept => .of_rebuild? kept
  | _, _, _, .filterByLead _ _ kept => .of_rebuild? kept
  | _, _, _, .filterByMember _ _ kept => .of_filterByMember? kept
  | _, _, _, .basisItem before _ taken => before.contiguous.basisItem taken
  | _, _, _, .leadItem _ _ taken =>
      have ⟨_, _, found⟩ := TimeSeries.exists_of_byLead_item? taken
      .of_rebuild? found
  | _, _, _, .ofRegular before => before.contiguous

theorem RegularSeries.Reachable.contiguous :
    ∀ {α : Type} {_ : Sample α} {regular : RegularSeries α}, regular.Reachable →
      regular.series.Contiguous
  | _, _, _, .build _ built =>
      have ⟨_, assembled, _⟩ := RegularSeries.build_eq_ok_iff.mp built
      .of_assemble assembled
  | _, _, _, .ofSeries before _ accepted =>
      have ⟨same, _⟩ := RegularSeries.ofSeries_eq_ok_iff.mp accepted
      same ▸ before.contiguous
  | _, _, _, .filterByBasis before _ kept => before.contiguous.regularFilterByBasis? kept
  | _, _, _, .filterByLead _ _ kept =>
      have ⟨_, _, _, seriesKept⟩ := RegularSeries.exists_of_filterByLead kept
      .of_rebuild? seriesKept
  | _, _, _, .filterByMember _ _ kept =>
      have ⟨_, seriesKept, same⟩ := Option.map_eq_some_iff.mp kept
      same ▸ .of_filterByMember? seriesKept
  | _, _, _, .basisItem before _ taken => before.contiguous.regularBasisItem taken
  | _, _, _, .leadItem _ _ taken =>
      .of_rebuild? (RegularSeries.exists_of_byLead_item? taken).2
  | _, _, _, .traceItem _ _ taken =>
      have ⟨_, _, _, _, same⟩ := RegularSeries.exists_of_byTrace_item? taken
      same ▸ .trace _ _ _

end

namespace Storage

variable {α : Type} [Sample α]

/-- The visible spans of a storage represent its issuances. -/
structure Represents (storage : Storage α) : Prop where
  /-- There are visible spans. -/
  nonempty : storage.visible ≠ []
  /-- They lie end to end within the buffer. -/
  contiguous : storage.Contiguous
  /-- Every one of them is read in full. -/
  full : ∀ span ∈ storage.visible, (storage.read span).events.length = span.length
  /-- What lies between their ends is within the buffer. -/
  within : ∀ first ∈ storage.visible.head?, ∀ last ∈ storage.visible.getLast?,
    first.start ≤ last.stop ∧ last.stop ≤ storage.events.length
  /-- It is the events of the issuances, in order. -/
  events : storage.visibleEvents = storage.issuances.flatMap Issuance.events
  /-- No basis time occurs twice. -/
  distinct : (storage.visible.map Span.basis).Nodup
  /-- Every issuance has events, which ascend strictly. -/
  issuances : ∀ issuance ∈ storage.issuances, issuance.events ≠ []
    ∧ Issuance.Ascending issuance.events
  /-- They have equally many members, where values are of one sort. -/
  members : Sample.OfOneSort α → ∀ issuance ∈ storage.issuances,
    ∃ members, ∀ event ∈ issuance.events, Sample.memberCount event.value = members

theorem Sound.represents {storage : Storage α} (sound : storage.Sound)
    (contiguous : storage.Contiguous) : storage.Represents where
  nonempty hidden := sound.nonempty (by rw [Storage.issuances, hidden, List.map_nil])
  contiguous := contiguous
  full _ member := contiguous.length_events_read member
  within _ isFirst _ isLast := contiguous.visibleEvents_within isFirst isLast
  events := contiguous.visibleEvents_eq
  distinct := storage.map_basis_visible ▸ sound.distinct
  issuances issuance member :=
    ⟨(sound.every issuance member).nonempty, (sound.every issuance member).ascending⟩
  members sort issuance member := by
    have isSound : issuance.Sound := sound.every issuance member
    obtain ⟨first, inEvents⟩ := List.exists_mem_of_ne_nil _ isSound.nonempty
    exact ⟨Sample.memberCount first.value, fun event inIssuance =>
      isSound.memberCount_eq sort inIssuance inEvents⟩

end Storage

namespace TimeSeries

variable {α : Type} [Sample α]

/-- A series shows what its storages represent. -/
structure Represents (series : TimeSeries α) : Prop where
  main : series.main.Represents
  baseline : ∀ storage ∈ series.baseline, storage.Represents
  /-- Walking through the events is walking through the issuances in order. -/
  walk : Cursor.items series.byEvent = series.issuances.flatMap Issuance.events
  eventCount : series.eventCount
    = (series.issuances.map fun issuance => issuance.events.length).sum
  /-- The basis times of the issuances, in order. -/
  basisTimes : StrictlyAscending series.basisTimes
    ∧ ∀ basis, basis ∈ series.basisTimes ↔ ∃ issuance ∈ series.issuances, issuance.basis = basis
  /-- The leads of all events, in order. -/
  leads : StrictlyAscending series.leads
    ∧ ∀ lead, lead ∈ series.leads ↔
      ∃ issuance ∈ series.issuances, ∃ event ∈ issuance.events,
        Instant.lead issuance.basis event.time = lead

omit [Sample α] in
theorem mem_basisTimes {series : TimeSeries α} {basis : Instant} :
    basis ∈ series.basisTimes ↔ ∃ issuance ∈ series.issuances, issuance.basis = basis := by
  rw [basisTimes, mem_sortedDistinct, Storage.map_basis_visible, List.mem_map]
  rfl

/-- Three issuances of one or two events, and the last of them as baseline. -/
def threeIssuances : List (Contribution Binary64) :=
  [.events (.zeros 20 [21, 23]), .events (.zeros 0 [2]), .events (.zeros 10 [11, 12]),
    .baseline (.zeros 10 [11])]

end TimeSeries

end Forecast
