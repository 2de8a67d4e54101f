import Forecast.Proofs.Collection.Traversal
import Forecast.Proofs.Series.Contributions
import Forecast.Proofs.Series.Walk

/-!
# Sound series

Every series that the library makes is sound: it has issuances, of different basis times, and each
has events in strictly ascending order whose ensembles agree in width.  Building makes a sound
series; filters, views and selections keep it sound, since each of them only leaves events out.
-/

namespace Forecast

namespace Issuance

variable {α β : Type}

/-- What holds of every issuance of a series.  Widths are compared only in a type all of whose
values are ensembles; there they stay equal whichever events are left out. -/
structure Sound [Sample α] (issuance : Issuance α) : Prop where
  /-- There are events. -/
  nonempty : issuance.events ≠ []
  /-- Valid times ascend strictly. -/
  ascending : Ascending issuance.events
  /-- Ensembles agree in width. -/
  uniform : (∀ value : α, (Sample.memberCount value).isSome) →
    ∀ first ∈ issuance.events, ∀ second ∈ issuance.events, widthOf first = widthOf second

section

variable [Sample α]

theorem Valid.sound {issuance : Issuance α} (valid : issuance.Valid) : issuance.Sound := by
  refine ⟨valid.nonempty, valid.ascending, fun ensembles first inFirst second inSecond => ?_⟩
  obtain ⟨head, rest, split⟩ := List.exists_cons_of_ne_nil valid.nonempty
  obtain ⟨width, hasWidth⟩ := Option.isSome_iff_exists.mp (ensembles head.value)
  have agree := valid.widths head (by simp [split]) width hasWidth
  rw [agree first inFirst, agree second inSecond]

/-- Leaving events out keeps an issuance sound, as long as there are events left. -/
theorem Sound.sublist {issuance : Issuance α} (sound : issuance.Sound) {events : List (Event α)}
    (part : events.Sublist issuance.events) (nonempty : events ≠ []) :
    Sound ⟨issuance.basis, events⟩ where
  nonempty := nonempty
  ascending := sound.ascending.sublist part
  uniform ensembles first inFirst second inSecond :=
    sound.uniform ensembles first (part.subset inFirst) second (part.subset inSecond)

end

theorem mem_changed {change : Issuance α → List (Event β)} {issuances : List (Issuance α)}
    {issuance : Issuance β} :
    issuance ∈ changed change issuances ↔
      ∃ old ∈ issuances, change old ≠ [] ∧ issuance = ⟨old.basis, change old⟩ := by
  simp only [changed, List.mem_filter, List.mem_map]
  constructor
  · rintro ⟨⟨old, member, rfl⟩, kept⟩
    exact ⟨old, member, by simpa using kept, rfl⟩
  · rintro ⟨old, member, kept, rfl⟩
    exact ⟨⟨old, member, rfl⟩, by simpa using kept⟩

theorem basis_changed_sublist (change : Issuance α → List (Event β))
    (issuances : List (Issuance α)) :
    ((changed change issuances).map basis).Sublist (issuances.map basis) := by
  have part := (List.filter_sublist
    (l := issuances.map fun issuance => (⟨issuance.basis, change issuance⟩ : Issuance β))
    (p := fun issuance => !issuance.events.isEmpty)).map basis
  simpa [changed, Function.comp_def] using part

end Issuance

namespace Storage

variable {α β : Type}

/-- What holds of the storage of every series. -/
structure Sound [Sample α] (storage : Storage α) : Prop where
  /-- There are issuances. -/
  nonempty : storage.issuances ≠ []
  /-- Every issuance is sound. -/
  every : ∀ issuance ∈ storage.issuances, issuance.Sound
  /-- No basis time occurs twice. -/
  distinct : (storage.issuances.map Issuance.basis).Nodup

/-- A storage is rebuilt unless all issuances are left without events. -/
theorem rebuild_eq_some_iff {change : Issuance α → List (Event β)} {storage : Storage α}
    {result : Storage β} :
    storage.rebuild change = some result ↔
      Issuance.changed change storage.issuances ≠ []
        ∧ result = ofIssuances (Issuance.changed change storage.issuances) := by
  rw [rebuild]
  cases Issuance.changed change storage.issuances with
  | nil => simp
  | cons first rest =>
    simp only [Option.some.injEq, ne_eq, reduceCtorEq, not_false_eq_true, true_and]
    exact eq_comm

/-- The issuances of a rebuilt storage are those that keep events, changed. -/
theorem exists_of_rebuild {change : Issuance α → List (Event β)} {storage : Storage α}
    {result : Storage β} (rebuilt : storage.rebuild change = some result) {issuance : Issuance β}
    (member : issuance ∈ result.issuances) :
    ∃ old ∈ storage.issuances, change old ≠ [] ∧ issuance = ⟨old.basis, change old⟩ := by
  obtain ⟨-, rfl⟩ := rebuild_eq_some_iff.mp rebuilt
  rw [issuances_ofIssuances] at member
  exact Issuance.mem_changed.mp member

theorem count_visible_le (storage : Storage α) : storage.visible.length ≤ storage.count :=
  List.length_take_le _ _

theorem length_issuances (storage : Storage α) :
    storage.issuances.length = storage.visible.length := by
  simp [issuances]

theorem map_basis_visible (storage : Storage α) :
    storage.visible.map Span.basis = storage.issuances.map Issuance.basis := by
  rw [issuances, List.map_map]
  rfl

theorem issuances_narrow_sublist {storage : Storage α} {index : Nat}
    (visible : index < storage.visible.length) :
    (storage.narrow index).issuances.Sublist storage.issuances := by
  rw [issuances_narrow storage (Nat.lt_of_lt_of_le visible storage.count_visible_le)]
  exact (List.take_sublist _ _).trans (List.drop_sublist _ _)

/-- The issuance at the position of a basis time has that basis time. -/
theorem issuance?_of_position? {storage : Storage α} {basis : Instant} {position : Nat}
    (found : storage.position? basis = some position) {issuance : Issuance α}
    (atPosition : storage.issuance? position = some issuance) :
    issuance ∈ storage.issuances ∧ issuance.basis = basis := by
  obtain ⟨span, isVisible, rfl⟩ := Option.map_eq_some_iff.mp atPosition
  refine ⟨List.mem_map_of_mem (List.mem_of_getElem? isVisible), ?_⟩
  obtain ⟨within, same, -⟩ := List.findIdx?_eq_some_iff_getElem.mp found
  obtain ⟨-, rfl⟩ := List.getElem?_eq_some_iff.mp isVisible
  exact eq_of_beq same

section

variable [Sample α]

theorem Sound.ofIssuances {issuances : List (Issuance α)} (nonempty : issuances ≠ [])
    (every : ∀ issuance ∈ issuances, issuance.Sound)
    (distinct : (issuances.map Issuance.basis).Nodup) : (ofIssuances issuances).Sound := by
  constructor <;> rwa [issuances_ofIssuances]

theorem Sound.singleton {issuance : Issuance α} (sound : issuance.Sound) :
    (Storage.ofIssuances [issuance]).Sound :=
  .ofIssuances (by simp) (by simpa using sound) (by simp)

theorem Sound.rebuild [Sample β] {storage : Storage α} (sound : storage.Sound)
    {change : Issuance α → List (Event β)} {result : Storage β}
    (rebuilt : storage.rebuild change = some result)
    (keeps : ∀ issuance ∈ storage.issuances, change issuance ≠ [] →
      Issuance.Sound ⟨issuance.basis, change issuance⟩) : result.Sound := by
  obtain ⟨nonempty, rfl⟩ := rebuild_eq_some_iff.mp rebuilt
  refine Sound.ofIssuances nonempty ?_ ?_
  · intro issuance member
    obtain ⟨old, inOld, kept, rfl⟩ := Issuance.mem_changed.mp member
    exact keeps old inOld kept
  · exact sound.distinct.sublist (Issuance.basis_changed_sublist _ _)

theorem Sound.narrow {storage : Storage α} (sound : storage.Sound) {index : Nat}
    (visible : index < storage.visible.length) : (storage.narrow index).Sound := by
  have within : index < storage.count := Nat.lt_of_lt_of_le visible storage.count_visible_le
  have part := issuances_narrow_sublist visible
  refine ⟨?_, fun issuance member => sound.every issuance (part.subset member),
    sound.distinct.sublist (part.map _)⟩
  rw [issuances_narrow storage within]
  have left : index < storage.issuances.length := by rwa [length_issuances]
  simp [List.drop_eq_nil_iff, left]

end

end Storage

/-! ## Series -/

namespace TimeSeries

variable {α β : Type} [Sample α]

/-- What holds of every series. -/
structure Sound (series : TimeSeries α) : Prop where
  /-- The storage of the series is sound. -/
  main : series.main.Sound
  /-- So is that of the baseline. -/
  baseline : ∀ storage ∈ series.baseline, storage.Sound

/-- A baseline has issuances. -/
theorem Sound.hasBaseline_iff {series : TimeSeries α} (sound : series.Sound) :
    series.hasBaseline = true ↔ series.baselineIssuances ≠ [] := by
  rw [hasBaseline, baselineIssuances]
  cases has : series.baseline with
  | none => simp
  | some storage => simpa using (sound.baseline storage has).nonempty

/-- No basis time occurs twice in a series. -/
theorem Sound.nodup_main {series : TimeSeries α} (sound : series.Sound) :
    (series.issuances.map Issuance.basis).Nodup :=
  sound.main.distinct

/-- No basis time occurs twice in a baseline. -/
theorem Sound.nodup_baseline {series : TimeSeries α} (sound : series.Sound) :
    (series.baselineIssuances.map Issuance.basis).Nodup := by
  rw [baselineIssuances]
  cases has : series.baseline with
  | none => exact List.nodup_nil
  | some storage => exact (sound.baseline storage has).distinct

theorem Sound.of_assemble {contributions : List (Contribution α)} {series : TimeSeries α}
    (assembled : (SeriesBuilder.addAll {} contributions).assemble = .ok series) :
    series.Sound := by
  rw [SeriesBuilder.addAll_eq_holding] at assembled
  obtain ⟨nonempty, mainValid, baselineValid, _, -, _, -, rfl⟩ :=
    SeriesBuilder.assemble_eq_ok_iff.mp assembled
  have gathered {issuances : List (Issuance α)} (nonempty : Issuance.gather issuances ≠ [])
      (valid : ∀ issuance ∈ Issuance.gather issuances, issuance.Valid) :
      (Storage.ofIssuances (Issuance.gather issuances)).Sound := by
    refine Storage.Sound.ofIssuances nonempty (fun issuance member => (valid _ member).sound) ?_
    rw [Issuance.map_basis_gather]
    exact Issuance.nodup_eraseDups _
  refine ⟨gathered nonempty mainValid, fun storage present => ?_⟩
  simp only [SeriesBuilder.toSeries, Option.mem_def] at present
  split at present
  · cases present
  · rename_i nonempty
    obtain rfl := Option.some.inj present
    exact gathered (mt List.isEmpty_iff.mpr nonempty) baselineValid

theorem Sound.of_build {contributions : List (Contribution α)} {series : TimeSeries α}
    (built : TimeSeries.build contributions = .ok series) : series.Sound := by
  rw [TimeSeries.build, SeriesBuilder.build] at built
  cases assembled : (SeriesBuilder.addAll {} contributions).assemble with
  | error cause =>
    rw [assembled] at built
    cases built
  | ok result =>
    rw [assembled] at built
    cases built
    exact .of_assemble assembled

theorem Sound.rebuild? [Sample β] {series : TimeSeries α} (sound : series.Sound)
    {change : Issuance α → List (Event β)} {result : TimeSeries β}
    (rebuilt : series.rebuild? change = some result)
    (keeps : ∀ issuance : Issuance α, issuance.Sound → change issuance ≠ [] →
      Issuance.Sound ⟨issuance.basis, change issuance⟩) : result.Sound := by
  obtain ⟨main, mainRebuilt, rfl⟩ := Option.map_eq_some_iff.mp rebuilt
  constructor
  · exact sound.main.rebuild mainRebuilt fun issuance member =>
      keeps issuance (sound.main.every issuance member)
  · intro storage present
    obtain ⟨before, had, baselineRebuilt⟩ := Option.bind_eq_some_iff.mp present
    have beforeSound := sound.baseline before had
    exact beforeSound.rebuild baselineRebuilt fun issuance member =>
      keeps issuance (beforeSound.every issuance member)

/-- Leaving events out keeps a series sound. -/
theorem Sound.rebuild?_of_sublist {series result : TimeSeries α} (sound : series.Sound)
    {change : Issuance α → List (Event α)} (rebuilt : series.rebuild? change = some result)
    (part : ∀ issuance, (change issuance).Sublist issuance.events) : result.Sound :=
  sound.rebuild? rebuilt fun issuance isSound => isSound.sublist (part issuance)

theorem Sound.filterByBasis? {series result : TimeSeries α} (sound : series.Sound)
    {keep : Instant → Bool} (kept : series.filterByBasis? keep = some result) : result.Sound := by
  refine sound.rebuild?_of_sublist kept fun issuance => ?_
  split
  · exact List.Sublist.refl _
  · exact List.nil_sublist _

theorem Sound.filterByLead? {series result : TimeSeries α} (sound : series.Sound)
    {keep : Duration → Bool} (kept : series.filterByLead? keep = some result) : result.Sound :=
  sound.rebuild?_of_sublist kept fun _ => List.filter_sublist

theorem Sound.atLead? {series result : TimeSeries α} (sound : series.Sound) {lead : Duration}
    (found : series.atLead? lead = some result) : result.Sound := by
  refine sound.rebuild?_of_sublist found fun issuance => ?_
  cases atLead : issuance.eventAt? lead with
  | none => exact List.nil_sublist _
  | some event => exact List.singleton_sublist.mpr (mem_of_bisectRange atLead).1

theorem Sound.narrow {series : TimeSeries α} (sound : series.Sound) {index : Nat}
    (visible : index < series.main.visible.length) (basis : Instant) :
    (series.narrow index basis).Sound := by
  refine ⟨sound.main.narrow visible, fun storage present => ?_⟩
  obtain ⟨before, had, narrowed⟩ := Option.bind_eq_some_iff.mp present
  obtain ⟨position, found, rfl⟩ := Option.map_eq_some_iff.mp narrowed
  exact (sound.baseline before had).narrow (List.findIdx?_eq_some_iff_getElem.mp found).1

theorem Sound.basisItem {series item : TimeSeries α} (sound : series.Sound) {index : Nat}
    (taken : Cursor.item? series.byBasis index = some item) : item.Sound := by
  obtain ⟨position, span, found, rfl⟩ := exists_of_byBasis_item? taken
  obtain ⟨within, -⟩ := List.getElem?_eq_some_iff.mp found
  exact sound.narrow within span.basis

theorem Sound.leadItem {series item : TimeSeries α} (sound : series.Sound) {index : Nat}
    (taken : Cursor.item? series.byLead index = some item) : item.Sound := by
  obtain ⟨lead, -, found⟩ := exists_of_byLead_item? taken
  exact sound.atLead? found

theorem Sound.baselineSeries? {series result : TimeSeries α} (sound : series.Sound)
    (isBaseline : series.baselineSeries? = some result) : result.Sound := by
  obtain ⟨storage, had, rfl⟩ := Option.map_eq_some_iff.mp isBaseline
  exact ⟨sound.baseline storage had, by simp⟩

end TimeSeries

end Forecast
