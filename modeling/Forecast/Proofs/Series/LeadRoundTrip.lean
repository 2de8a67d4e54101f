import Forecast.Proofs.Series.Filters
import Forecast.Proofs.Series.Items
import Forecast.Proofs.Series.Regathering

/-!
# Round trip by lead

The items of the view by lead hold the events of all issuances at one lead.  Merged in the order of
the leads they make up every issuance again: each of its events is found once, at its lead, and is
appended behind those at lesser leads.  Issuances may come in another order, as they are met when
the leads are gone through, and a baseline keeps only the events at leads of the series.
-/

namespace Forecast

namespace Issuance

variable {α : Type} {issuance : Issuance α} {issuances : List (Issuance α)}
  {leads : List Duration}

/-! ## Events by lead -/

theorem LeadsAscend.ascends (ascend : issuance.LeadsAscend) (lead : Duration) :
    Ascends (fun event => compare (issuance.leadOf event) lead) issuance.events :=
  ascends_of_pairwise (List.pairwise_map.mp ascend) lead

/-- Where leads ascend, the event at a lead is found wherever there is one. -/
theorem eventAt?_eq_some_iff (ascend : issuance.LeadsAscend) {lead : Duration}
    {event : Event α} :
    issuance.eventAt? lead = some event ↔
      event ∈ issuance.events ∧ issuance.leadOf event = lead := by
  rw [eventAt?, bisect_eq_some_iff (ascend.ascends lead), Std.compare_eq_iff_eq]

/-- In any case, what is found is an event at the lead. -/
theorem of_eventAt? {lead : Duration} {event : Event α}
    (found : issuance.eventAt? lead = some event) :
    event ∈ issuance.events ∧ issuance.leadOf event = lead := by
  obtain ⟨member, equal⟩ := mem_of_bisectRange found
  exact ⟨member, Std.compare_eq_iff_eq.mp equal⟩

theorem Ascending.nodup {events : List (Event α)} (ascending : Ascending events) :
    events.Nodup := by
  refine List.Pairwise.imp ?_ ascending
  rintro earlier later less rfl
  exact Instant.lt_irrefl _ less

/-- Every event is found at its lead just if leads ascend. -/
theorem eventAt?_leadOf_iff (ascending : Ascending issuance.events) :
    (∀ event ∈ issuance.events, issuance.eventAt? (issuance.leadOf event) = some event) ↔
      issuance.LeadsAscend := by
  rw [LeadsAscend, StrictlyAscending, leads, List.pairwise_map]
  exact bisect_finds_iff ascending.nodup

/-- Events at ascending leads are determined by which they are. -/
theorem LeadsAscend.eq_of_mem_iff {basis : Instant} {left right : List (Event α)}
    (leftAscend : LeadsAscend ⟨basis, left⟩) (rightAscend : LeadsAscend ⟨basis, right⟩)
    (members : ∀ event, event ∈ left ↔ event ∈ right) : left = right := by
  have permutation : left.Perm right :=
    (List.perm_ext_iff_of_nodup (.of_map _ leftAscend.nodup) (.of_map _ rightAscend.nodup)).mpr
      members
  refine permutation.eq_of_pairwise (fun first second _ _ less greater => ?_)
    (List.pairwise_map.mp leftAscend) (List.pairwise_map.mp rightAscend)
  exact absurd greater (Std.OrientedCmp.not_lt_of_lt less)

/-- The leads of the events that are found at some leads are among these, in the same order. -/
theorem map_leadOf_filterMap_eventAt?_sublist (issuance : Issuance α) (leads : List Duration) :
    ((leads.filterMap issuance.eventAt?).map issuance.leadOf).Sublist leads := by
  induction leads with
  | nil => exact .slnil
  | cons lead rest ih =>
    cases found : issuance.eventAt? lead with
    | none =>
      rw [List.filterMap_cons_none found]
      exact ih.cons lead
    | some event =>
      rw [List.filterMap_cons_some found, List.map_cons, (of_eventAt? found).2]
      exact ih.cons_cons lead

/-- Going through ascending leads finds the events at these leads, in order. -/
theorem filterMap_eventAt? (ascend : issuance.LeadsAscend)
    (leadsAscend : StrictlyAscending leads) :
    leads.filterMap issuance.eventAt?
      = issuance.events.filter fun event => issuance.leadOf event ∈ leads := by
  -- An induction on the leads would need that none before finds an event of one behind.
  apply LeadsAscend.eq_of_mem_iff
  · exact leadsAscend.sublist (issuance.map_leadOf_filterMap_eventAt?_sublist leads)
  · exact ascend.sublist List.filter_sublist
  · intro event
    simp only [List.mem_filterMap, eventAt?_eq_some_iff ascend, List.mem_filter,
      decide_eq_true_eq]
    constructor
    · rintro ⟨lead, isLead, member, rfl⟩
      exact ⟨member, isLead⟩
    · rintro ⟨member, isLead⟩
      exact ⟨_, isLead, member, rfl⟩

/-! ## Issuances by lead -/

/-- The issuances at each of some leads in turn. -/
def transposed (leads : List Duration) (issuances : List (Issuance α)) : List (Issuance α) :=
  leads.flatMap fun lead => changed (fun issuance => (issuance.eventAt? lead).toList) issuances

/-- The issuances with their events at some leads, those left without events dropped. -/
def restricted (leads : List Duration) (issuances : List (Issuance α)) : List (Issuance α) :=
  changed (fun issuance => issuance.events.filter fun event => issuance.leadOf event ∈ leads)
    issuances

theorem gatheredEvents_flatMap {ι : Type} (items : List ι) (change : ι → List (Issuance α))
    (known : Instant) :
    gatheredEvents (items.flatMap change) known
      = items.flatMap fun item => gatheredEvents (change item) known := by
  induction items with
  | nil => rfl
  | cons item rest ih => rw [List.flatMap_cons, gatheredEvents_append, ih, List.flatMap_cons]

/-- Issuances without events contribute nothing. -/
theorem gatheredEvents_filter (contributions : List (Issuance α)) (known : Instant) :
    gatheredEvents (contributions.filter fun issuance => !issuance.events.isEmpty) known
      = gatheredEvents contributions known := by
  induction contributions with
  | nil => rfl
  | cons first rest ih =>
    rw [← List.singleton_append, List.filter_append, gatheredEvents_append, ih,
      gatheredEvents_append]
    cases events : first.events with
    | nil =>
      rw [List.filter_cons_of_neg (by simp [events]), gatheredEvents_singleton, events, ite_self]
      rfl
    | cons => simp [events]

/-- Changed issuances have the changed events, also where there are none left. -/
theorem gatheredEvents_changed (distinct : (issuances.map basis).Nodup)
    (member : issuance ∈ issuances) (change : Issuance α → List (Event α)) :
    gatheredEvents (changed change issuances) issuance.basis = change issuance := by
  rw [changed, gatheredEvents_filter]
  have sameBases : (issuances.map fun issuance =>
      (⟨issuance.basis, change issuance⟩ : Issuance α)).map basis = issuances.map basis := by
    rw [List.map_map]
    rfl
  rw [← sameBases] at distinct
  have changedMember : (⟨issuance.basis, change issuance⟩ : Issuance α)
      ∈ issuances.map fun issuance => ⟨issuance.basis, change issuance⟩ :=
    List.mem_map_of_mem member
  exact gatheredEvents_of_mem distinct changedMember

theorem gatheredEvents_transposed (distinct : (issuances.map basis).Nodup)
    (member : issuance ∈ issuances) (leads : List Duration) :
    gatheredEvents (transposed leads issuances) issuance.basis
      = leads.filterMap issuance.eventAt? := by
  rw [transposed, gatheredEvents_flatMap, List.filterMap_eq_flatMap_toList]
  exact List.flatMap_congr fun lead _ => gatheredEvents_changed distinct member _

theorem filter_leads_eq_self (part : issuance.leads ⊆ leads) :
    (issuance.events.filter fun event => issuance.leadOf event ∈ leads) = issuance.events := by
  rw [List.filter_eq_self]
  exact fun event member => decide_eq_true (part (List.mem_map_of_mem member))

/-- Issuances that keep events are all there. -/
theorem changed_eq_map {change : Issuance α → List (Event α)}
    (nonempty : ∀ issuance ∈ issuances, change issuance ≠ []) :
    changed change issuances = issuances.map fun issuance => ⟨issuance.basis, change issuance⟩ := by
  rw [changed, List.filter_eq_self]
  exact List.forall_mem_map.mpr fun issuance member => by simpa using nonempty issuance member

/-- Nothing is dropped where all leads are among the given ones. -/
theorem restricted_eq_self (events : ∀ issuance ∈ issuances, issuance.events ≠ [])
    (part : ∀ issuance ∈ issuances, issuance.leads ⊆ leads) :
    restricted leads issuances = issuances :=
  changed_eq_self events fun issuance member => filter_leads_eq_self (part issuance member)

theorem restricted_append (leads : List Duration) (front back : List (Issuance α)) :
    restricted leads (front ++ back) = restricted leads front ++ restricted leads back := by
  rw [restricted, changed, List.map_append, List.filter_append]
  rfl

/-- Events at some leads of a sound issuance are sound, if there are any. -/
theorem sound_of_mem_restricted [Sample α] (sound : ∀ issuance ∈ issuances, issuance.Sound)
    {part : Issuance α} (member : part ∈ restricted leads issuances) : part.Sound := by
  obtain ⟨issuance, inIssuances, nonempty, rfl⟩ := mem_changed.mp member
  exact (sound issuance inIssuances).sublist List.filter_sublist nonempty

/-- Every issuance of a lead is some issuance at that lead. -/
theorem exists_of_mem_transposed {part : Issuance α} (member : part ∈ transposed leads issuances) :
    part.events ≠ [] ∧ ∃ issuance ∈ issuances, part.basis = issuance.basis := by
  obtain ⟨lead, -, atLead⟩ := List.mem_flatMap.mp member
  obtain ⟨issuance, inIssuances, nonempty, rfl⟩ := mem_changed.mp atLead
  exact ⟨nonempty, issuance, inIssuances, rfl⟩

/-- Gathering the issuances of ascending leads restores them with their events at these leads. -/
theorem gather_transposed_perm (distinct : (issuances.map basis).Nodup)
    (ascend : ∀ issuance ∈ issuances, issuance.LeadsAscend)
    (leadsAscend : StrictlyAscending leads) :
    (gather (transposed leads issuances)).Perm (restricted leads issuances) := by
  have gatheredDistinct : (gather (transposed leads issuances)).Nodup := by
    apply List.Nodup.of_map basis
    rw [map_basis_gather]
    exact nodup_eraseDups _
  have restrictedDistinct : (restricted leads issuances).Nodup :=
    .of_map basis (distinct.sublist (basis_changed_sublist _ _))
  have events {issuance : Issuance α} (member : issuance ∈ issuances) :
      gatheredEvents (transposed leads issuances) issuance.basis
        = issuance.events.filter fun event => issuance.leadOf event ∈ leads := by
    rw [gatheredEvents_transposed distinct member,
      filterMap_eventAt? (ascend issuance member) leadsAscend]
  -- An issuance is gathered where its first lead occurs, so only the members can be compared.
  rw [List.perm_ext_iff_of_nodup gatheredDistinct restrictedDistinct]
  intro part
  rw [mem_gather, restricted, mem_changed]
  constructor
  · rintro ⟨known, partEvents⟩
    have nonempty : part.events ≠ [] := by
      rw [partEvents]
      exact gatheredEvents_ne_nil (fun _ member => (exists_of_mem_transposed member).1) known
    obtain ⟨found, inTransposed, sameBasis⟩ := List.mem_map.mp known
    obtain ⟨-, issuance, member, basis⟩ := exists_of_mem_transposed inTransposed
    have same : part.basis = issuance.basis := sameBasis.symm.trans basis
    rw [same, events member] at partEvents
    rw [partEvents] at nonempty
    exact ⟨issuance, member, nonempty, by rw [← same, ← partEvents]⟩
  · rintro ⟨issuance, member, nonempty, rfl⟩
    refine ⟨?_, (events member).symm⟩
    by_contra absent
    exact nonempty ((events member).symm.trans (gatheredEvents_of_absent absent))

/-- Where leads ascend, an issuance with a lead has an event found at it. -/
theorem toList_eventAt?_ne_nil (ascend : issuance.LeadsAscend) {lead : Duration}
    (isLead : lead ∈ issuance.leads) : (issuance.eventAt? lead).toList ≠ [] := by
  obtain ⟨event, member, rfl⟩ := List.mem_map.mp isLead
  rw [(eventAt?_eq_some_iff ascend).mpr ⟨member, rfl⟩]
  simp

theorem map_basis_changed {change : Issuance α → List (Event α)}
    (nonempty : ∀ issuance ∈ issuances, change issuance ≠ []) :
    (changed change issuances).map basis = issuances.map basis := by
  rw [changed_eq_map nonempty, List.map_map]
  rfl

theorem eraseDups_flatMap_const {ι κ : Type} [BEq κ] [LawfulBEq κ] {items : List ι}
    (nonempty : items ≠ []) {values : List κ} (distinct : values.Nodup) :
    (items.flatMap fun _ => values).eraseDups = values := by
  obtain ⟨first, rest, rfl⟩ := List.exists_cons_of_ne_nil nonempty
  have known : (rest.flatMap fun _ => values).removeAll values = [] := by
    simp [List.removeAll]
  rw [List.flatMap_cons, List.eraseDups_append, known, eraseDups_of_nodup distinct]
  exact List.append_nil _

/-- Where all issuances have the same leads, going through these leads restores them in order. -/
theorem gather_transposed_eq_self (distinct : (issuances.map basis).Nodup)
    (leadsAscend : StrictlyAscending leads) (nonempty : leads ≠ [])
    (shared : ∀ issuance ∈ issuances, issuance.leads = leads) :
    gather (transposed leads issuances) = issuances := by
  have ascend : ∀ issuance ∈ issuances, issuance.LeadsAscend := fun issuance member => by
    rwa [LeadsAscend, shared issuance member]
  have bases : ((transposed leads issuances).map basis).eraseDups = issuances.map basis := by
    rw [transposed, List.map_flatMap, ← eraseDups_flatMap_const nonempty distinct]
    refine congrArg _ (List.flatMap_congr fun lead isLead => map_basis_changed ?_)
    intro issuance member
    rw [← shared issuance member] at isLead
    exact toList_eventAt?_ne_nil (ascend issuance member) isLead
  rw [gather, bases, List.map_map]
  calc
    _ = issuances.map id := List.map_congr_left fun issuance member => by
      rw [Function.comp_apply, gatheredEvents_transposed distinct member,
        filterMap_eventAt? (ascend issuance member) leadsAscend,
        filter_leads_eq_self fun _ isLead => shared issuance member ▸ isLead]
      rfl
    _ = issuances := List.map_id _

end Issuance

/-! ## Items of the view -/

namespace TimeSeries

variable {α : Type}

/-- A rebuilt series holds the changed issuances and shares the rest. -/
structure IsChanged (change : Issuance α → List (Event α)) (series result : TimeSeries α) :
    Prop where
  shares : result.Shares series
  issuances : result.issuances = Issuance.changed change series.issuances
  baselineIssuances :
    result.baselineIssuances = Issuance.changed change series.baselineIssuances

theorem IsChanged.of_rebuild? {change : Issuance α → List (Event α)} {series result : TimeSeries α}
    (rebuilt : series.rebuild? change = some result) : series.IsChanged change result := by
  have issuances := issuances_of_rebuild? rebuilt
  obtain ⟨main, -, rfl⟩ := Option.map_eq_some_iff.mp rebuilt
  refine ⟨series.withStorage_shares _ _, issuances, ?_⟩
  rw [withStorage, TimeSeries.baselineIssuances, TimeSeries.baselineIssuances]
  cases series.baseline with
  | none => rfl
  | some storage =>
    rw [Option.bind_some, Storage.rebuild, Option.map_some, Option.getD_some]
    cases Issuance.changed change storage.issuances <;> simp

variable [Sample α] {series : TimeSeries α}

omit [Sample α] in
/-- Where leads ascend, something is found at every lead of the series. -/
theorem isSome_atLead? (ascend : ∀ issuance ∈ series.issuances, issuance.LeadsAscend)
    {lead : Duration} (isLead : lead ∈ series.leads) : (series.atLead? lead).isSome := by
  obtain ⟨issuance, member, isLead⟩ := mem_leads.mp isLead
  exact isSome_rebuild? member (Issuance.toList_eventAt?_ne_nil (ascend issuance member) isLead)

theorem Sound.forall₂_isChanged (sound : series.Sound) :
    List.Forall₂ (fun lead item =>
        item.Sound
          ∧ series.IsChanged (fun issuance => (issuance.eventAt? lead).toList) item)
      series.foundLeads (Cursor.items series.byLead) :=
  series.forall₂_items_byLead.imp fun _ _ found => ⟨sound.atLead? found, .of_rebuild? found⟩

theorem Sound.of_mem_items_byLead (sound : series.Sound) {item : TimeSeries α}
    (member : item ∈ Cursor.items series.byLead) : item.Sound := by
  obtain ⟨lead, -, isSound, -⟩ := exists_of_mem_right sound.forall₂_isChanged member
  exact isSound

/-- The items hold the issuances at the leads that are found. -/
theorem Sound.flatMap_issuances_items_byLead (sound : series.Sound) :
    (Cursor.items series.byLead).flatMap issuances
      = Issuance.transposed series.foundLeads series.issuances :=
  flatMap_eq_flatMap_of_forall₂ sound.forall₂_isChanged fun _ _ isItem => isItem.2.issuances

/-- A series has leads. -/
theorem Sound.leads_ne_nil (sound : series.Sound) : series.leads ≠ [] := by
  obtain ⟨issuance, member⟩ := List.exists_mem_of_ne_nil _ sound.main.nonempty
  have isSound : issuance.Sound := sound.main.every issuance member
  obtain ⟨event, inEvents⟩ := List.exists_mem_of_ne_nil _ isSound.nonempty
  have isLead : issuance.leadOf event ∈ issuance.leads := List.mem_map_of_mem inEvents
  exact List.ne_nil_of_mem (mem_leads.mpr ⟨issuance, member, isLead⟩)

/-! ## Round trip -/

/-- What the items of the view by lead make when they are merged. -/
def transposed (series : TimeSeries α) : TimeSeries α :=
  series.regathered (Issuance.gather (Issuance.transposed series.leads series.issuances))
    (Issuance.gather (Issuance.transposed series.leads series.baselineIssuances))

omit [Sample α] in
theorem LeadsAscend.gather_transposed_perm (ascend : series.LeadsAscend)
    {issuances : List (Issuance α)} (part : issuances ⊆ series.everyIssuance)
    (distinct : (issuances.map Issuance.basis).Nodup) :
    (Issuance.gather (Issuance.transposed series.leads issuances)).Perm
      (Issuance.restricted series.leads issuances) :=
  Issuance.gather_transposed_perm distinct (fun issuance member => ascend issuance (part member))
    series.leads_ascend

theorem Sound.everyIssuance_transposed_perm (sound : series.Sound)
    (ascend : series.LeadsAscend) : series.transposed.everyIssuance.Perm
      (Issuance.restricted series.leads series.everyIssuance) := by
  rw [transposed, everyIssuance_regathered, everyIssuance, Issuance.restricted_append]
  exact (ascend.gather_transposed_perm (List.subset_append_left _ _) sound.nodup_main).append
    (ascend.gather_transposed_perm (List.subset_append_right _ _) sound.nodup_baseline)

theorem Sound.merged_items_byLead (sound : series.Sound) (ascend : series.LeadsAscend) :
    merged (Cursor.items series.byLead)
      = (Issuance.checkAll series.transposed.everyIssuance >>= fun _ =>
        .ok series.transposed).mapError .invalidInput := by
  have items := sound.forall₂_isChanged
  have found : series.foundLeads = series.leads :=
    foundLeads_eq fun _ isLead => isSome_atLead? (fun _ inMain => ascend.main inMain) isLead
  have baseline : (Cursor.items series.byLead).flatMap baselineIssuances
      = Issuance.transposed series.foundLeads series.baselineIssuances :=
    flatMap_eq_flatMap_of_forall₂ items fun _ _ isItem => isItem.2.baselineIssuances
  rw [transposed, everyIssuance_regathered]
  apply merged_of_shares
  · rw [ne_eq, ← List.length_eq_zero_iff, ← items.length_eq, List.length_eq_zero_iff, found]
    exact sound.leads_ne_nil
  · exact fun item member => sound.of_mem_items_byLead member
  · intro item member
    obtain ⟨lead, -, -, isChanged⟩ := exists_of_mem_right items member
    exact isChanged.shares
  · rw [sound.flatMap_issuances_items_byLead, found]
  · rw [baseline, found]

/-- What a series becomes by merging the items of its view by lead. -/
structure TransposedByLead (series result : TimeSeries α) : Prop where
  /-- The issuances are those of the series with all their events, in some order. -/
  issuances : result.issuances.Perm series.issuances
  /-- Those of the baseline are left with the events at leads of the series. -/
  baselineIssuances : result.baselineIssuances.Perm
    (Issuance.changed (fun issuance => issuance.events.filter fun event =>
      issuance.leadOf event ∈ series.leads) series.baselineIssuances)
  /-- There is a baseline just if some are left. -/
  hasBaseline : result.hasBaseline = true ↔ result.baselineIssuances ≠ []
  metadata : result.metadata = series.metadata
  climatology : result.climatology = series.climatology
  /-- Metadata of the baseline are kept by a baseline only. -/
  baselineMetadata : result.baselineMetadata
    = if result.hasBaseline then series.baselineMetadata else series.metadata

theorem Sound.transposedByLead (sound : series.Sound) (ascend : series.LeadsAscend) :
    series.TransposedByLead series.transposed := by
  refine ⟨?_, ?_, ?_, metadata_regathered _ _ _, climatology_regathered _ _ _,
    baselineMetadata_regathered _ _ _⟩
  · have whole : Issuance.restricted series.leads series.issuances = series.issuances := by
      apply Issuance.restricted_eq_self
      · exact fun issuance member => (sound.main.every issuance member).nonempty
      · exact fun issuance member lead isLead => mem_leads.mpr ⟨issuance, member, isLead⟩
    have restored := ascend.gather_transposed_perm (List.subset_append_left _ _) sound.nodup_main
    rw [transposed, issuances_regathered]
    rwa [whole] at restored
  · rw [transposed, baselineIssuances_regathered]
    exact ascend.gather_transposed_perm (List.subset_append_right _ _) sound.nodup_baseline
  · rw [transposed, hasBaseline_regathered, baselineIssuances_regathered]

/-- Issuances are restored only where their leads ascend, since leads are gone through in order. -/
theorem Sound.leadsAscend_of_restored (sound : series.Sound) {result : TimeSeries α}
    (built : merged (Cursor.items series.byLead) = .ok result)
    (restored : result.issuances.Perm series.issuances) {issuance : Issuance α}
    (member : issuance ∈ series.issuances) : issuance.LeadsAscend := by
  have isMerged : result.IsMerged (Cursor.items series.byLead) :=
    .of_merged (fun item inItems => sound.of_mem_items_byLead inItems) built
  have gathered : issuance ∈ result.issuances := restored.mem_iff.mpr member
  rw [isMerged.issuances, sound.flatMap_issuances_items_byLead, Issuance.mem_gather,
    Issuance.gatheredEvents_transposed sound.nodup_main member] at gathered
  have found : series.foundLeads.Sublist series.leads := List.takeWhile_sublist _
  rw [Issuance.LeadsAscend, Issuance.leads, gathered.2]
  exact series.leads_ascend.sublist
    ((issuance.map_leadOf_filterMap_eventAt?_sublist series.foundLeads).trans found)

end TimeSeries

/-- What is restored of a regular series by merging the items of its view by lead. -/
structure RegularSeries.RestoredByLead {α : Type} (regular : RegularSeries α)
    (result : TimeSeries α) : Prop where
  issuances : result.issuances = regular.series.issuances
  baselineIssuances : result.baselineIssuances = regular.series.baselineIssuances
  /-- All is restored just if metadata of a baseline are given only where there is one. -/
  identical : result.content = regular.series.content ↔
    regular.series.hasBaseline = true
      ∨ regular.series.baselineMetadata = regular.series.metadata

/-- The issuances of a steady series have the same leads, so that they are restored in order. -/
theorem RegularSeries.Steady.transposed_eq {α : Type} [Sample α] {regular : RegularSeries α}
    (steady : regular.Steady) :
    regular.series.transposed
      = regular.series.regathered regular.series.issuances regular.series.baselineIssuances := by
  have sound : regular.series.Sound := steady.sound
  obtain ⟨count, onSteps⟩ := steady.even
  have shared : ∀ issuance ∈ regular.series.everyIssuance,
      issuance.leads = regular.series.leads := by
    rw [onSteps.leads_eq sound steady.positive]
    exact onSteps
  have restored {issuances : List (Issuance α)}
      (distinct : (issuances.map Issuance.basis).Nodup)
      (part : issuances ⊆ regular.series.everyIssuance) :
      Issuance.gather (Issuance.transposed regular.series.leads issuances) = issuances :=
    Issuance.gather_transposed_eq_self distinct regular.series.leads_ascend
      sound.leads_ne_nil fun issuance member => shared issuance (part member)
  rw [TimeSeries.transposed, restored sound.nodup_main (List.subset_append_left _ _),
    restored sound.nodup_baseline (List.subset_append_right _ _)]

theorem RegularSeries.Steady.restoredByLead {α : Type} [Sample α] {regular : RegularSeries α}
    (steady : regular.Steady) : regular.RestoredByLead regular.series.transposed := by
  rw [steady.transposed_eq]
  refine ⟨TimeSeries.issuances_regathered _ _ _, TimeSeries.baselineIssuances_regathered _ _ _, ?_⟩
  rw [TimeSeries.content_regathered_eq_iff steady.sound]
  exact and_iff_right rfl

theorem RegularSeries.Steady.leadsAscend {α : Type} [Sample α] {regular : RegularSeries α}
    (steady : regular.Steady) : regular.series.LeadsAscend := by
  obtain ⟨count, onSteps⟩ := steady.even
  exact onSteps.leadsAscend steady.positive

/-- Issuances of different leads, and a baseline at a lead of the series and at another one. -/
def ragged : List (Contribution Binary64) :=
  [.events (.zeros 10 [13, 16]), .events (.zeros 0 [2, 3]), .baseline (.zeros 10 [12, 14]),
    .baseline (.zeros 0 [4])]

/-- Two issuances at two steps, and metadata for a baseline that they lack. -/
def evenSteps : List (Contribution Binary64) :=
  [.events (.zeros 10 [13, 16]), .events (.zeros 0 [3, 6]),
    .baselineMetadata { unit := "m" }]

end Forecast
