import Forecast.Proofs.Series.Items
import Forecast.Proofs.Series.Reachable
import Forecast.Proofs.Series.Regathering

/-!
# Round trip by issue

The items of the view by issue hold one issuance each, with the issuance of the baseline that was
issued at the same time.  Merged again they restore the series, except that issuances of the
baseline are lost where the series has none of the same time, that the others take the order of the
series, and that metadata of a baseline are lost with it.
-/

namespace Forecast

/-- The items of a part of a list without repetitions, as they stand in the list. -/
theorem filter_mem_eq_of_sublist {κ : Type} [DecidableEq κ] {part items : List κ}
    (distinct : items.Nodup) (within : part.Sublist items) :
    items.filter (· ∈ part) = part := by
  have all : part.filter (· ∈ part) = part :=
    List.filter_eq_self.mpr fun item member => by simpa using member
  have among : (part.filter (· ∈ part)).Sublist (items.filter (· ∈ part)) := within.filter _
  rw [all] at among
  refine (among.eq_of_length_le ?_).symm
  apply List.Nodup.length_le_of_subset (distinct.filter _)
  intro item member
  simpa using (List.mem_filter.mp member).2

/-! ## Issuances by time of issue -/

namespace Issuance

variable {α : Type} {issuances : List (Issuance α)}

/-- The issuance of a basis time. -/
def issuedAt? (issuances : List (Issuance α)) (known : Instant) : Option (Issuance α) :=
  issuances.find? fun issuance => issuance.basis == known

/-- The issuances of some basis times, in the order of these. -/
def issuedAtAny (issuances : List (Issuance α)) (bases : List Instant) : List (Issuance α) :=
  bases.filterMap (issuedAt? issuances)

theorem mem_of_issuedAt? {known : Instant} {issuance : Issuance α}
    (found : issuedAt? issuances known = some issuance) :
    issuance ∈ issuances ∧ issuance.basis = known := by
  have same := List.find?_some found
  exact ⟨List.mem_of_find?_eq_some found, eq_of_beq same⟩

theorem issuedAt?_eq_none_iff {known : Instant} :
    issuedAt? issuances known = none ↔ known ∉ issuances.map basis := by
  simp [issuedAt?]

/-- Where no basis time occurs twice, every issuance is found at its own. -/
theorem issuedAt?_of_mem (distinct : (issuances.map basis).Nodup) {issuance : Issuance α}
    (member : issuance ∈ issuances) : issuedAt? issuances issuance.basis = some issuance := by
  cases found : issuedAt? issuances issuance.basis with
  | none => exact absurd (List.mem_map_of_mem member) (issuedAt?_eq_none_iff.mp found)
  | some other =>
    obtain ⟨inIssuances, same⟩ := mem_of_issuedAt? found
    rw [List.inj_on_of_nodup_map distinct inIssuances member same]

theorem mem_issuedAtAny (distinct : (issuances.map basis).Nodup) {bases : List Instant}
    {issuance : Issuance α} :
    issuance ∈ issuedAtAny issuances bases ↔ issuance ∈ issuances ∧ issuance.basis ∈ bases := by
  rw [issuedAtAny, List.mem_filterMap]
  constructor
  · rintro ⟨known, isKnown, found⟩
    obtain ⟨member, rfl⟩ := mem_of_issuedAt? found
    exact ⟨member, isKnown⟩
  · rintro ⟨member, isKnown⟩
    exact ⟨issuance.basis, isKnown, issuedAt?_of_mem distinct member⟩

theorem map_basis_issuedAtAny (bases : List Instant) :
    (issuedAtAny issuances bases).map basis = bases.filter (· ∈ issuances.map basis) := by
  induction bases with
  | nil => rfl
  | cons known rest ih =>
    rw [issuedAtAny] at ih ⊢
    cases found : issuedAt? issuances known with
    | none =>
      have absent : known ∉ issuances.map basis := issuedAt?_eq_none_iff.mp found
      rw [List.filterMap_cons_none found, List.filter_cons_of_neg (by simpa using absent), ih]
    | some issuance =>
      obtain ⟨member, rfl⟩ := mem_of_issuedAt? found
      have present : issuance.basis ∈ issuances.map basis := List.mem_map_of_mem member
      rw [List.filterMap_cons_some found, List.map_cons,
        List.filter_cons_of_pos (by simpa using present), ih]

/-- All issuances are taken in order just if their basis times occur in this order. -/
theorem issuedAtAny_eq_self_iff {bases : List Instant} (distinct : bases.Nodup)
    (issuancesDistinct : (issuances.map basis).Nodup) :
    issuedAtAny issuances bases = issuances ↔ (issuances.map basis).Sublist bases := by
  constructor
  · intro all
    rw [← all, map_basis_issuedAtAny]
    exact List.filter_sublist
  · intro part
    calc
      _ = (bases.filter (· ∈ issuances.map basis)).filterMap (issuedAt? issuances) := by
        rw [List.filterMap_filter, issuedAtAny]
        refine List.filterMap_congr fun known _ => ?_
        split
        · rfl
        · rename_i absent
          exact issuedAt?_eq_none_iff.mpr (by simpa using absent)
      _ = issuances.filterMap some := by
        rw [filter_mem_eq_of_sublist distinct part, List.filterMap_map]
        exact List.filterMap_congr fun issuance member => issuedAt?_of_mem issuancesDistinct member
      _ = issuances := List.filterMap_some

end Issuance

/-! ## Items of the view -/

namespace Storage

variable {α : Type} {storage : Storage α}

/-- Narrowing to a visible span leaves its issuance. -/
theorem issuances_narrow_of_visible {index : Nat} {span : Span}
    (found : storage.visible[index]? = some span) :
    (storage.narrow index).issuances = [storage.read span] := by
  obtain ⟨visible, rfl⟩ := List.getElem?_eq_some_iff.mp found
  have within : index < storage.count := Nat.lt_of_lt_of_le visible storage.count_visible_le
  rw [issuances, visible_narrow storage within, List.drop_eq_getElem_cons visible]
  rfl

/-- The position of a basis time is that of the issuance of that time. -/
theorem issuedAt?_eq (storage : Storage α) (basis : Instant) :
    Issuance.issuedAt? storage.issuances basis
      = (storage.position? basis).bind storage.issuance? := by
  have found : storage.visible.find? (fun span => span.basis == basis)
      = (storage.position? basis).bind (storage.visible[·]?) :=
    List.find?_eq_bind_findIdx?_getElem?
  rw [Issuance.issuedAt?, issuances, List.find?_map]
  exact (congrArg _ found).trans Option.map_bind

/-- Narrowing to the position of a basis time leaves the issuance of that time. -/
theorem issuances_narrow_position? (storage : Storage α) (basis : Instant) :
    (((storage.position? basis).map storage.narrow).map issuances).getD []
      = (Issuance.issuedAt? storage.issuances basis).toList := by
  rw [storage.issuedAt?_eq]
  cases found : storage.position? basis with
  | none => rfl
  | some position =>
    obtain ⟨within, -⟩ := List.findIdx?_eq_some_iff_getElem.mp found
    have isVisible := List.getElem?_eq_getElem within
    rw [Option.bind_some, issuance?, isVisible]
    exact issuances_narrow_of_visible isVisible

end Storage

namespace TimeSeries

variable {α : Type}

/-- An item of the view holds one issuance and the one of the baseline at the same time. -/
structure IsIssue (series : TimeSeries α) (issuance : Issuance α) (item : TimeSeries α) :
    Prop where
  shares : item.Shares series
  issuances : item.issuances = [issuance]
  baselineIssuances : item.baselineIssuances
    = (Issuance.issuedAt? series.baselineIssuances issuance.basis).toList

theorem IsNarrowed.isIssue {series item : TimeSeries α} {span : Span}
    (narrowed : series.IsNarrowed span item) : series.IsIssue (series.main.read span) item := by
  obtain ⟨index, found, rfl⟩ := narrowed
  refine ⟨series.withStorage_shares _ _, Storage.issuances_narrow_of_visible found, ?_⟩
  rw [narrow, withStorage, TimeSeries.baselineIssuances, TimeSeries.baselineIssuances]
  cases series.baseline with
  | none => rfl
  | some storage => exact storage.issuances_narrow_position? span.basis

/-- The view has an item for every issuance, in order. -/
theorem forall₂_isIssue (series : TimeSeries α) :
    List.Forall₂ series.IsIssue series.issuances (Cursor.items series.byBasis) := by
  rw [TimeSeries.issuances, Storage.issuances, List.forall₂_map_left_iff]
  exact series.forall₂_items_byBasis.imp fun _ _ => IsNarrowed.isIssue

theorem Sound.of_mem_items_byBasis [Sample α] {series item : TimeSeries α} (sound : series.Sound)
    (member : item ∈ Cursor.items series.byBasis) : item.Sound := by
  obtain ⟨span, -, index, found, rfl⟩ := exists_of_mem_right series.forall₂_items_byBasis member
  exact sound.narrow (List.getElem?_eq_some_iff.mp found).1 span.basis

theorem Sound.items_byBasis_ne_nil [Sample α] {series : TimeSeries α} (sound : series.Sound) :
    Cursor.items series.byBasis ≠ [] := by
  have lengths := series.forall₂_isIssue.length_eq
  rw [ne_eq, ← List.length_eq_zero_iff, ← lengths, List.length_eq_zero_iff]
  exact sound.main.nonempty

/-! ## Round trip -/

/-- What the items of the view make when they are merged. -/
def reissued (series : TimeSeries α) : TimeSeries α :=
  series.regathered series.issuances
    (Issuance.issuedAtAny series.baselineIssuances (series.issuances.map Issuance.basis))

/-- The issuances at the basis times of the series. -/
def matched (series : TimeSeries α) : List (Issuance α) :=
  series.everyIssuance.filter fun issuance => issuance.basis ∈ series.issuances.map Issuance.basis

variable [Sample α] {series : TimeSeries α}

theorem Sound.mem_everyIssuance_reissued (sound : series.Sound) {issuance : Issuance α} :
    issuance ∈ series.reissued.everyIssuance ↔ issuance ∈ series.matched := by
  rw [reissued, everyIssuance_regathered, matched, everyIssuance, List.mem_filter,
    List.mem_append, List.mem_append, Issuance.mem_issuedAtAny sound.nodup_baseline,
    decide_eq_true_iff, or_and_right]
  exact or_congr_left (and_iff_left_of_imp List.mem_map_of_mem).symm

theorem Sound.of_mem_reissued (sound : series.Sound) {issuance : Issuance α}
    (member : issuance ∈ series.reissued.everyIssuance) : issuance ∈ series.everyIssuance :=
  (List.mem_filter.mp (sound.mem_everyIssuance_reissued.mp member)).1

theorem Sound.merged_items_byBasis (sound : series.Sound) :
    merged (Cursor.items series.byBasis)
      = (Issuance.checkAll series.reissued.everyIssuance >>= fun _ =>
        .ok series.reissued).mapError .invalidInput := by
  have items := series.forall₂_isIssue
  have main : (Cursor.items series.byBasis).flatMap issuances = series.issuances := by
    rw [flatMap_eq_flatMap_of_forall₂ items fun _ _ isIssue => isIssue.issuances]
    exact List.flatMap_singleton' _
  have baseline : (Cursor.items series.byBasis).flatMap baselineIssuances
      = Issuance.issuedAtAny series.baselineIssuances
        (series.issuances.map Issuance.basis) := by
    rw [flatMap_eq_flatMap_of_forall₂ items fun _ _ isIssue => isIssue.baselineIssuances,
      Issuance.issuedAtAny, List.filterMap_map, List.filterMap_eq_flatMap_toList]
    rfl
  rw [reissued, everyIssuance_regathered]
  apply merged_of_shares sound.items_byBasis_ne_nil
  · exact fun item member => sound.of_mem_items_byBasis member
  · intro item member
    obtain ⟨issuance, -, isIssue⟩ := exists_of_mem_right items member
    exact isIssue.shares
  · rw [main]
    exact Issuance.gather_eq_self sound.nodup_main
  · rw [baseline]
    apply Issuance.gather_eq_self
    rw [Issuance.map_basis_issuedAtAny]
    exact sound.nodup_main.filter _

/-- What is restored of a series by merging the items of its view by issue. -/
structure RestoredByBasis (series result : TimeSeries α) : Prop where
  issuances : result.issuances = series.issuances
  metadata : result.metadata = series.metadata
  climatology : result.climatology = series.climatology
  /-- The baseline has the issuances at the basis times of the series, in their order. -/
  baselineIssuances : result.baselineIssuances
    = Issuance.issuedAtAny series.baselineIssuances (series.issuances.map Issuance.basis)
  /-- There is a baseline just if there are such issuances. -/
  hasBaseline : result.hasBaseline = true ↔
    ∃ issuance ∈ series.issuances, ∃ issued ∈ series.baselineIssuances,
      issued.basis = issuance.basis
  /-- All is restored just if the basis times of a baseline are among those of the series, in the
  same order, and metadata of a baseline are given only where there is one. -/
  identical : result.content = series.content ↔
    series.hasBaseline = true
        ∧ (series.baselineIssuances.map Issuance.basis).Sublist
          (series.issuances.map Issuance.basis)
      ∨ series.hasBaseline = false ∧ series.baselineMetadata = series.metadata

theorem Sound.restoredByBasis (sound : series.Sound) :
    series.RestoredByBasis series.reissued := by
  refine ⟨issuances_regathered _ _ _, metadata_regathered _ _ _, climatology_regathered _ _ _,
    baselineIssuances_regathered _ _ _, ?_, ?_⟩
  · rw [reissued, hasBaseline_regathered, ne_eq, ← List.map_eq_nil_iff,
      Issuance.map_basis_issuedAtAny, List.filter_eq_nil_iff]
    simp
  · rw [reissued, content_regathered_eq_iff sound,
      Issuance.issuedAtAny_eq_self_iff sound.nodup_main sound.nodup_baseline]
    cases has : series.hasBaseline with
    | true => simp
    | false =>
      have none : series.baselineIssuances = [] := by
        simpa [has] using sound.hasBaseline_iff
      simp [none]

end TimeSeries

/-- A regular series is restored as the series beneath it, which stays on the steps. -/
theorem RegularSeries.Steady.merged_items_byBasis {α : Type} [Sample α] {regular : RegularSeries α}
    (steady : regular.Steady) :
    merged (Cursor.items regular.byBasis)
      = (Issuance.checkAll regular.series.reissued.everyIssuance >>= fun _ =>
        .ok ⟨regular.series.reissued, regular.step⟩).mapError .invalidInput := by
  have sound : regular.series.Sound := steady.sound
  have built := sound.merged_items_byBasis
  have even : ∀ made, TimeSeries.merged (Cursor.items regular.series.byBasis) = .ok made →
      ∃ count, made.OnSteps regular.step count := by
    intro made isMade
    rw [built, mapError_eq_ok_iff, bind_eq_ok_iff] at isMade
    obtain ⟨-, -, same⟩ := isMade
    obtain rfl := Except.ok.inj same
    obtain ⟨count, onSteps⟩ := steady.even
    exact ⟨count, fun issuance member => onSteps issuance (sound.of_mem_reissued member)⟩
  rw [items_byBasis, merged_map sound.items_byBasis_ne_nil steady.positive even, built]
  cases Issuance.checkAll regular.series.reissued.everyIssuance <;> rfl

/-- Two issuances, and a baseline of three in another order. -/
def misaligned : List (Contribution Binary64) :=
  let issuance (basis : Int) : Issuance Binary64 := .zeros basis [basis + 5]
  [.events (issuance 0), .events (issuance 10), .baseline (issuance 20),
    .baseline (issuance 10), .baseline (issuance 0)]

end Forecast
