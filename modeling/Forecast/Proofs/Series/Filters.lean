import Forecast.Proofs.Series.Reachable

/-!
# Laws of filters

A filter changes every issuance on its own and drops the issuances that are left without events.  So
two filters keep what both conditions keep, in either order, also where the series or its baseline
are used up halfway, and a filter that keeps everything gives the series back.  Regular series are
filtered by basis time as the series beneath them.
-/

namespace Forecast

namespace Issuance

variable {α β γ : Type}

theorem changed_cons (change : Issuance α → List (Event β)) (issuance : Issuance α)
    (rest : List (Issuance α)) :
    changed change (issuance :: rest)
      = (if (change issuance).isEmpty then [] else [⟨issuance.basis, change issuance⟩])
        ++ changed change rest := by
  cases events : change issuance <;> simp [changed, events]

/-- Two changes are one, if nothing is made out of no events. -/
theorem changed_changed (first : Issuance α → List (Event β))
    {second : Issuance β → List (Event γ)} (empty : ∀ basis, second ⟨basis, []⟩ = [])
    (issuances : List (Issuance α)) :
    changed second (changed first issuances)
      = changed (fun issuance => second ⟨issuance.basis, first issuance⟩) issuances := by
  induction issuances with
  | nil => rfl
  | cons issuance rest ih =>
    rw [changed_cons, changed_cons, ← ih]
    cases events : first issuance with
    | nil => simp [empty]
    | cons => exact changed_cons second _ _

theorem changed_congr {first second : Issuance α → List (Event β)} {issuances : List (Issuance α)}
    (agree : ∀ issuance ∈ issuances, first issuance = second issuance) :
    changed first issuances = changed second issuances := by
  rw [changed, changed]
  refine congrArg _ (List.map_congr_left fun issuance member => ?_)
  rw [agree issuance member]

/-- Issuances with events are left as they are, if their events are. -/
theorem changed_eq_self {change : Issuance α → List (Event α)} {issuances : List (Issuance α)}
    (events : ∀ issuance ∈ issuances, issuance.events ≠ [])
    (whole : ∀ issuance ∈ issuances, change issuance = issuance.events) :
    changed change issuances = issuances := by
  rw [changed_congr whole, changed, List.map_id', List.filter_eq_self]
  exact fun issuance member => by simpa using events issuance member

end Issuance

namespace Storage

variable {α β γ : Type}

theorem rebuild_bind_rebuild (first : Issuance α → List (Event β))
    {second : Issuance β → List (Event γ)} (empty : ∀ basis, second ⟨basis, []⟩ = [])
    (storage : Storage α) :
    (storage.rebuild first).bind (rebuild second)
      = storage.rebuild fun issuance => second ⟨issuance.basis, first issuance⟩ := by
  have both := Issuance.changed_changed first empty storage.issuances
  rw [rebuild, rebuild, ← both]
  cases Issuance.changed first storage.issuances with
  | nil => rfl
  | cons issuance rest => rw [Option.bind_some, rebuild, issuances_ofIssuances]

theorem rebuild_congr {first second : Issuance α → List (Event β)} {storage : Storage α}
    (agree : ∀ issuance ∈ storage.issuances, first issuance = second issuance) :
    storage.rebuild first = storage.rebuild second := by
  rw [rebuild, rebuild, Issuance.changed_congr agree]

/-- A storage is laid out afresh, if all its events are left. -/
theorem Sound.rebuild_eq_some [Sample α] {storage : Storage α} (sound : storage.Sound)
    {change : Issuance α → List (Event α)}
    (whole : ∀ issuance ∈ storage.issuances, change issuance = issuance.events) :
    storage.rebuild change = some (Storage.ofIssuances storage.issuances) := by
  have same := Issuance.changed_eq_self
    (fun issuance member => (sound.every issuance member).nonempty) whole
  rw [rebuild_eq_some_iff, same]
  exact ⟨sound.nonempty, rfl⟩

end Storage

namespace TimeSeries

variable {α β γ : Type}

/-- Two series hold the same, and so the same sets are derived from them. -/
structure Alike (left right : TimeSeries α) : Prop where
  /-- Issuances of the series and of the baseline, metadata and climatology are the same. -/
  content : left.content = right.content
  basisTimes : left.basisTimes = right.basisTimes
  leads : left.leads = right.leads
  regularGap? : left.regularGap? = right.regularGap?

theorem Alike.of_content {left right : TimeSeries α} (content : left.content = right.content) :
    left.Alike right := by
  have issuances : left.issuances = right.issuances := congrArg SeriesContent.main content
  refine ⟨content, ?_, ?_, ?_⟩
  · rw [TimeSeries.basisTimes, TimeSeries.basisTimes, Storage.map_basis_visible,
      Storage.map_basis_visible]
    exact congrArg (fun issuances => sortedDistinct (issuances.map Issuance.basis)) issuances
  · rw [TimeSeries.leads, TimeSeries.leads, issuances]
  · rw [TimeSeries.regularGap?, TimeSeries.regularGap?, issuances]

theorem Alike.refl (series : TimeSeries α) : series.Alike series := .of_content rfl

theorem Alike.symm {left right : TimeSeries α} (alike : left.Alike right) : right.Alike left :=
  .of_content alike.content.symm

theorem Alike.trans {left middle right : TimeSeries α} (first : left.Alike middle)
    (second : middle.Alike right) : left.Alike right :=
  .of_content (first.content.trans second.content)

/-! ## Changes -/

theorem issuances_of_rebuild? {change : Issuance α → List (Event β)} {series : TimeSeries α}
    {result : TimeSeries β} (rebuilt : series.rebuild? change = some result) :
    result.issuances = Issuance.changed change series.issuances := by
  obtain ⟨main, mainRebuilt, rfl⟩ := Option.map_eq_some_iff.mp rebuilt
  obtain ⟨-, rfl⟩ := Storage.rebuild_eq_some_iff.mp mainRebuilt
  exact Storage.issuances_ofIssuances _

/-- A series is rebuilt if some of its issuances keeps events. -/
theorem isSome_rebuild? {change : Issuance α → List (Event β)} {series : TimeSeries α}
    {issuance : Issuance α} (member : issuance ∈ series.issuances)
    (nonempty : change issuance ≠ []) : (series.rebuild? change).isSome := by
  have changed : Issuance.changed change series.main.issuances ≠ [] :=
    List.ne_nil_of_mem (Issuance.mem_changed.mpr ⟨issuance, member, nonempty, rfl⟩)
  rw [rebuild?, Option.isSome_map, Storage.rebuild_eq_some_iff.mpr ⟨changed, rfl⟩]
  rfl

theorem rebuild?_bind_rebuild? (first : Issuance α → List (Event β))
    {second : Issuance β → List (Event γ)} (empty : ∀ basis, second ⟨basis, []⟩ = [])
    (series : TimeSeries α) :
    (series.rebuild? first).bind (rebuild? second)
      = series.rebuild? fun issuance => second ⟨issuance.basis, first issuance⟩ := by
  have main := Storage.rebuild_bind_rebuild first empty series.main
  have baseline : (series.baseline.bind fun storage => storage.rebuild first).bind
        (fun storage => storage.rebuild second)
      = series.baseline.bind fun storage =>
        storage.rebuild fun issuance => second ⟨issuance.basis, first issuance⟩ := by
    rw [Option.bind_assoc]
    exact congrArg _ (funext fun storage => Storage.rebuild_bind_rebuild first empty storage)
  rw [rebuild?, rebuild?, ← main, ← baseline]
  cases series.main.rebuild first <;> rfl

theorem rebuild?_congr {first second : Issuance α → List (Event β)} {series : TimeSeries α}
    (agree : ∀ issuance ∈ series.everyIssuance, first issuance = second issuance) :
    series.rebuild? first = series.rebuild? second := by
  have main : series.main.rebuild first = series.main.rebuild second :=
    Storage.rebuild_congr fun issuance member =>
      agree issuance (mem_everyIssuance.mpr (.inl member))
  have baseline : (series.baseline.bind fun storage => storage.rebuild first)
      = series.baseline.bind fun storage => storage.rebuild second := by
    cases has : series.baseline with
    | none => rfl
    | some storage =>
      exact Storage.rebuild_congr fun issuance member =>
        agree issuance (mem_everyIssuance.mpr (.inr ⟨storage, has, member⟩))
  rw [rebuild?, rebuild?, main, baseline]

/-- A change that leaves all events gives the series back. -/
theorem Sound.exists_rebuild?_alike [Sample α] {series : TimeSeries α} (sound : series.Sound)
    {change : Issuance α → List (Event α)}
    (whole : ∀ issuance ∈ series.everyIssuance, change issuance = issuance.events) :
    ∃ result, series.rebuild? change = some result ∧ result.Alike series := by
  have main := sound.main.rebuild_eq_some fun issuance member =>
    whole issuance (mem_everyIssuance.mpr (.inl member))
  rw [TimeSeries.rebuild?, main]
  refine ⟨_, rfl, .of_content ?_⟩
  cases has : series.baseline with
  | none => simp [content, withStorage, has]
  | some storage =>
    have baseline := (sound.baseline storage has).rebuild_eq_some fun issuance member =>
      whole issuance (mem_everyIssuance.mpr (.inr ⟨storage, has, member⟩))
    simp [content, withStorage, has, baseline]

/-! ## Filters -/

section

variable (series : TimeSeries α)

theorem filterByBasis?_bind_filterByBasis? (first second : Instant → Bool) :
    (series.filterByBasis? first).bind (fun kept => kept.filterByBasis? second)
      = series.filterByBasis? fun basis => first basis && second basis := by
  refine (rebuild?_bind_rebuild? _ (fun basis => ite_self _) series).trans ?_
  refine congrArg (series.rebuild? ·) (funext fun issuance => ?_)
  cases kept : first issuance.basis <;> simp [kept]

theorem filterByLead?_bind_filterByLead? (first second : Duration → Bool) :
    (series.filterByLead? first).bind (fun kept => kept.filterByLead? second)
      = series.filterByLead? fun lead => first lead && second lead := by
  refine (rebuild?_bind_rebuild? _ (fun basis => rfl) series).trans ?_
  refine congrArg (series.rebuild? ·) (funext fun issuance => ?_)
  exact List.filter_filter.trans (List.filter_congr fun event _ => Bool.and_comm _ _)

/-- What both filters do to one issuance is the same in either order. -/
theorem filterByBasis?_bind_filterByLead? (keepBasis : Instant → Bool)
    (keepLead : Duration → Bool) :
    (series.filterByBasis? keepBasis).bind (fun kept => kept.filterByLead? keepLead)
      = (series.filterByLead? keepLead).bind fun kept => kept.filterByBasis? keepBasis := by
  refine (rebuild?_bind_rebuild? _ (fun basis => rfl) series).trans ?_
  refine Eq.trans ?_ (rebuild?_bind_rebuild? _ (fun basis => ite_self _) series).symm
  refine congrArg (series.rebuild? ·) (funext fun issuance => ?_)
  cases keepBasis issuance.basis <;> simp [Issuance.leadOf]

/-- The laws by which a series is filtered. -/
structure FilterLaws : Prop where
  basisTwice : ∀ first second,
    (series.filterByBasis? first).bind (fun kept => kept.filterByBasis? second)
      = series.filterByBasis? fun basis => first basis && second basis
  leadTwice : ∀ first second,
    (series.filterByLead? first).bind (fun kept => kept.filterByLead? second)
      = series.filterByLead? fun lead => first lead && second lead
  eitherFirst : ∀ keepBasis keepLead,
    (series.filterByBasis? keepBasis).bind (fun kept => kept.filterByLead? keepLead)
      = (series.filterByLead? keepLead).bind fun kept => kept.filterByBasis? keepBasis
  everyBasis : ∃ kept, series.filterByBasis? (fun _ => true) = some kept ∧ kept.Alike series
  everyLead : ∃ kept, series.filterByLead? (fun _ => true) = some kept ∧ kept.Alike series

end

theorem Sound.filterLaws [Sample α] {series : TimeSeries α} (sound : series.Sound) :
    series.FilterLaws where
  basisTwice := series.filterByBasis?_bind_filterByBasis?
  leadTwice := series.filterByLead?_bind_filterByLead?
  eitherFirst := series.filterByBasis?_bind_filterByLead?
  everyBasis := sound.exists_rebuild?_alike fun _ _ => rfl
  everyLead := sound.exists_rebuild?_alike fun _ _ => List.filter_true _

end TimeSeries

/-- The series beneath a regular one is filtered, whether or not all of it is kept. -/
theorem RegularSeries.Steady.filterByBasis?_rel {α : Type} [Sample α] {regular : RegularSeries α}
    (steady : regular.Steady) (keep : Instant → Bool) :
    Option.Rel (fun kept series => kept.step = regular.step ∧ kept.series.Alike series)
      (regular.filterByBasis? keep) (regular.series.filterByBasis? keep) := by
  rw [RegularSeries.filterByBasis?]
  split
  · rename_i every
    obtain ⟨series, kept, alike⟩ : ∃ series, regular.series.filterByBasis? keep = some series
        ∧ series.Alike regular.series := by
      apply steady.sound.exists_rebuild?_alike
      intro issuance member
      exact if_pos (List.all_eq_true.mp every issuance member)
    rw [kept]
    exact .some ⟨rfl, alike.symm⟩
  · cases regular.series.filterByBasis? keep with
    | none => exact .none
    | some series => exact .some ⟨rfl, .refl series⟩

/-- Reachable series are filtered by these laws, and reachable regular ones by basis time as the
series beneath them. -/
theorem filters_agree {α : Type} [Sample α] :
    (∀ series : TimeSeries α, series.Reachable → series.FilterLaws)
    ∧ ∀ regular : RegularSeries α, regular.Reachable → ∀ keep,
      Option.Rel (fun kept series => kept.step = regular.step ∧ kept.series.Alike series)
        (regular.filterByBasis? keep) (regular.series.filterByBasis? keep) := by
  constructor
  · intro series reachable
    have sound : series.Sound := reachable.sound
    exact sound.filterLaws
  · intro regular reachable
    have steady : regular.Steady := reachable.steady
    exact steady.filterByBasis?_rel

/-- Two issuances, and a baseline at the time of neither. -/
def unmatched : List (Contribution Binary64) :=
  let issuance (basis : Int) : Issuance Binary64 := .zeros basis [basis + 5]
  [.events (issuance 10), .events (issuance 0), .baseline (issuance 20)]

/-- All issuances are kept and the baseline is not, so that the series is not kept as a whole. -/
theorem filters_agree_unmatched :
    ∃ series kept, TimeSeries.build unmatched = .ok series ∧ series.FilterLaws
      ∧ RegularSeries.ofSeries series ⟨5⟩ = .ok ⟨series, ⟨5⟩⟩
      ∧ RegularSeries.filterByBasis? ⟨series, ⟨5⟩⟩ (· < .ofNanoseconds 15) = some kept
      ∧ series.hasBaseline = true ∧ kept.series.hasBaseline = false ∧ kept.series.seriesCount = 2
      ∧ Option.Rel (fun kept series => kept.step = ⟨5⟩ ∧ kept.series.Alike series) (some kept)
        (series.filterByBasis? fun basis => basis < .ofNanoseconds 15) := by
  have series : TimeSeries.Reachable _ := .build (rfl : TimeSeries.build unmatched = .ok _)
  have regular : RegularSeries.Reachable ⟨_, _⟩ := .ofSeries series ⟨5⟩ rfl
  have kept := filters_agree.2 _ regular fun basis => basis < .ofNanoseconds 15
  exact ⟨_, _, rfl, filters_agree.1 _ series, rfl, rfl, rfl, rfl, rfl, kept⟩

end Forecast
