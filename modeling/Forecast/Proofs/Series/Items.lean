import Forecast.Proofs.Collection.Traversal
import Forecast.Series.Cursor
import Mathlib.Data.List.TakeWhile

/-!
# Whole walks

The items that are ahead can be read off every place of a walk through a view.  Such a walk gives
them in turn, announces at every step how many are still to come, and stays at its end.  By event it
gives the events, by issue one narrowed series for each visible span, and by lead the events at each
of the leads.
-/

namespace Forecast

namespace Cursor

variable {σ ι : Type} [Cursor σ ι]

/-- The place behind some steps. -/
def behind (place : σ) : Nat → σ
  | 0 => place
  | steps + 1 => behind (next place).2 steps

/-- A walk gives these items in turn and then none ever after, and announces at every step how many
of them are still to come. -/
def Gives (place : σ) (items : List ι) : Prop :=
  ∀ steps, (next (behind place steps)).1 = items[steps]?
    ∧ remaining (behind place steps) = (items.drop steps).length

/-- At places of some kind a cursor has these items ahead. -/
structure Foresees (within : σ → Prop) (ahead : σ → List ι) : Prop where
  /-- The next place is of the kind. -/
  stays : ∀ {place}, within place → within (next place).2
  /-- The next item is the first one ahead. -/
  item : ∀ {place}, within place → (next place).1 = (ahead place).head?
  /-- The other ones are ahead of the next place. -/
  rest : ∀ {place}, within place → ahead (next place).2 = (ahead place).tail
  announced : ∀ {place}, within place → remaining place = (ahead place).length

variable {place : σ} {items : List ι}

theorem Foresees.gives {within : σ → Prop} {ahead : σ → List ι} (foresees : Foresees within ahead)
    (start : within place) : Gives place (ahead place) := by
  intro steps
  induction steps generalizing place with
  | zero => exact ⟨(foresees.item start).trans List.head?_eq_getElem?, foresees.announced start⟩
  | succ steps ih =>
    have later := ih (foresees.stays start)
    rw [foresees.rest start, List.getElem?_tail, List.drop_tail] at later
    exact later

namespace Gives

theorem next (gives : Gives place items) : Gives (next place).2 items.tail := by
  intro steps
  have later := gives (steps + 1)
  rwa [← List.getElem?_tail, ← List.drop_tail] at later

theorem map_takeSteps (gives : Gives place items) (limit : Nat) :
    (takeSteps limit place).map Prod.fst = items.take limit := by
  induction limit generalizing place items with
  | zero => rfl
  | succ limit ih =>
    have item : (Cursor.next place).1 = items[0]? := (gives 0).1
    have later := ih gives.next
    rw [takeSteps]
    rcases taken : Cursor.next place with ⟨item?, behind⟩
    rw [taken] at item later
    cases items with
    | nil =>
      obtain rfl : item? = none := item
      rfl
    | cons first rest =>
      obtain rfl : item? = some first := item
      exact congrArg (first :: ·) later

theorem unique {others : List ι} (gives : Gives place items) (again : Gives place others) :
    items = others :=
  List.ext_getElem? fun steps => (gives steps).1.symm.trans (again steps).1

/-- A walk gives the items that are taken from it. -/
theorem items_eq (gives : Gives place items) : Cursor.items place = items := by
  have announced : remaining place = items.length := (gives 0).2
  rw [Cursor.items, gives.map_takeSteps, announced, List.take_length]

/-- A cursor that changes the items of another one gives the changed items. -/
theorem map {τ κ : Type} [Cursor τ κ] (gives : Gives place items) (lift : σ → τ) (change : ι → κ)
    (agree : ∀ place,
      Cursor.next (lift place) = ((Cursor.next place).1.map change, lift (Cursor.next place).2))
    (announced : ∀ place, remaining (lift place) = remaining place) :
    Gives (lift place) (items.map change) := by
  have lifted (steps : Nat) (place : σ) :
      behind (lift place) steps = lift (behind place steps) := by
    induction steps generalizing place with
    | zero => rfl
    | succ steps ih => rw [behind, agree, ih, behind]
  intro steps
  obtain ⟨item, count⟩ := gives steps
  rw [lifted, agree, announced, item, count, List.getElem?_map, ← List.map_drop, List.length_map]
  exact ⟨rfl, rfl⟩

end Gives

end Cursor

open Cursor (Foresees Gives)

variable {α : Type}

/-! ## By event -/

theorem EventCursor.foresees : Foresees (fun _ : EventCursor α => True) EventCursor.events where
  stays _ := trivial
  item {place} _ := by obtain ⟨_ | _⟩ := place <;> rfl
  rest {place} _ := by obtain ⟨_ | _⟩ := place <;> rfl
  announced _ := rfl

/-- The walk by event is through the visible events. -/
theorem TimeSeries.items_byEvent (series : TimeSeries α) :
    Cursor.items series.byEvent = series.events :=
  (EventCursor.foresees.gives trivial).items_eq

/-! ## By issue -/

/-- The item of a visible span is the series narrowed to it. -/
def TimeSeries.IsNarrowed (series : TimeSeries α) (span : Span) (item : TimeSeries α) : Prop :=
  ∃ index, series.main.visible[index]? = some span ∧ item = series.narrow index span.basis

/-- The issuances still to come, as series of their own. -/
def BasisCursor.ahead (place : BasisCursor α) : List (TimeSeries α) :=
  ((place.series.main.visible.drop place.position).zipIdx place.position).map
    fun (span, index) => place.series.narrow index span.basis

theorem BasisCursor.foresees : Foresees (fun _ : BasisCursor α => True) BasisCursor.ahead where
  stays _ := trivial
  item {place} _ := by
    change place.next.1 = _
    rw [BasisCursor.next, BasisCursor.ahead, ← List.head?_drop]
    cases place.series.main.visible.drop place.position <;> rfl
  rest {place} _ := by
    change place.next.2.ahead = _
    rw [BasisCursor.next, ← List.head?_drop]
    cases spans : place.series.main.visible.drop place.position with
    | nil => simp [BasisCursor.ahead, spans]
    | cons span rest =>
      have later : place.series.main.visible.drop (place.position + 1) = rest := by
        rw [← List.tail_drop, spans, List.tail_cons]
      simp [BasisCursor.ahead, spans, later]
  announced {place} _ := by
    change place.series.main.visible.length - place.position = _
    simp [BasisCursor.ahead]

theorem TimeSeries.gives_byBasis (series : TimeSeries α) :
    Gives series.byBasis series.byBasis.ahead :=
  BasisCursor.foresees.gives trivial

/-- There is an item ahead for every visible span. -/
theorem TimeSeries.forall₂_ahead_byBasis (series : TimeSeries α) :
    List.Forall₂ series.IsNarrowed series.main.visible series.byBasis.ahead := by
  have spans : series.main.visible = series.main.visible.zipIdx.map Prod.fst := by simp
  rw [spans]
  refine List.forall₂_map_left_iff.mpr (List.forall₂_map_right_iff.mpr ?_)
  refine List.forall₂_same.mpr fun place member => ?_
  exact ⟨place.2, List.mem_zipIdx_iff_getElem?.mp member, rfl⟩

/-- The walk by issue has an item for every visible span. -/
theorem TimeSeries.forall₂_items_byBasis (series : TimeSeries α) :
    List.Forall₂ series.IsNarrowed series.main.visible (Cursor.items series.byBasis) := by
  rw [series.gives_byBasis.items_eq]
  exact series.forall₂_ahead_byBasis

/-- A regular series is walked as the series beneath it, with its step. -/
theorem RegularSeries.gives_byBasis (regular : RegularSeries α) :
    Gives regular.byBasis
      (regular.series.byBasis.ahead.map fun series => ⟨series, regular.step⟩) :=
  regular.series.gives_byBasis.map
    (fun inner => (⟨inner, regular.step⟩ : RegularBasisCursor α)) _ (fun _ => rfl) fun _ => rfl

theorem RegularSeries.items_byBasis (regular : RegularSeries α) :
    Cursor.items regular.byBasis
      = (Cursor.items regular.series.byBasis).map fun series => ⟨series, regular.step⟩ := by
  rw [regular.gives_byBasis.items_eq, regular.series.gives_byBasis.items_eq]

/-! ## By lead -/

/-- The leads still to come, as regular series of the events at them. -/
def RegularLeadCursor.ahead (place : RegularLeadCursor α) : List (RegularSeries α) :=
  place.inner.leads.filterMap fun lead =>
    (place.inner.series.atLead? lead).map fun series => ⟨series, lead⟩

theorem RegularLeadCursor.foresees : Foresees
    (fun place : RegularLeadCursor α =>
      ∀ lead ∈ place.inner.leads, (place.inner.series.atLead? lead).isSome)
    RegularLeadCursor.ahead where
  stays {place} occur := by
    obtain ⟨series, _ | ⟨lead, rest⟩⟩ := place
    · exact occur
    · exact (List.forall_mem_cons.mp occur).2
  item {place} occur := by
    obtain ⟨series, _ | ⟨lead, rest⟩⟩ := place
    · rfl
    · obtain ⟨item, found⟩ := Option.isSome_iff_exists.mp (occur lead List.mem_cons_self)
      change ((series.atLead? lead).map _).map _ = _
      simp [RegularLeadCursor.ahead, found]
  rest {place} occur := by
    obtain ⟨series, _ | ⟨lead, rest⟩⟩ := place
    · rfl
    · obtain ⟨item, found⟩ := Option.isSome_iff_exists.mp (occur lead List.mem_cons_self)
      change RegularLeadCursor.ahead ⟨series, rest⟩ = _
      simp [RegularLeadCursor.ahead, found]
  announced {place} occur := by
    refine (List.filterMap_length_eq_length.mpr fun lead isAhead => ?_).symm
    rw [Option.isSome_map]
    exact occur lead isAhead

section

variable (place : RegularLeadCursor α)

/-- If every lead occurs, there is an item ahead for each. -/
theorem RegularLeadCursor.forall₂_ahead
    (occur : ∀ lead ∈ place.inner.leads, (place.inner.series.atLead? lead).isSome) :
    List.Forall₂ (fun lead item =>
        place.inner.series.atLead? lead = some item.series ∧ item.step = lead)
      place.inner.leads place.ahead := by
  refine (forall₂_filterMap fun lead isAhead => ?_).imp ?_
  · rw [Option.isSome_map]
    exact occur lead isAhead
  · intro lead item found
    obtain ⟨series, atLead, rfl⟩ := Option.map_eq_some_iff.mp found
    exact ⟨atLead, rfl⟩

/-- A series is walked as a regular one, apart from the steps. -/
theorem LeadCursor.gives
    (occur : ∀ lead ∈ place.inner.leads, (place.inner.series.atLead? lead).isSome) :
    Gives place.inner (place.ahead.map RegularSeries.series) := by
  refine (RegularLeadCursor.foresees.gives occur).map RegularLeadCursor.inner RegularSeries.series
    ?_ fun _ => rfl
  rintro ⟨series, _ | ⟨lead, rest⟩⟩
  · rfl
  · change (((series.atLead? lead).map _).map _, _)
      = ((((series.atLead? lead).map _).map _).map _, _)
    cases series.atLead? lead <;> rfl

end

/-- The leads up to the first at which nothing is found. -/
def TimeSeries.foundLeads (series : TimeSeries α) : List Duration :=
  series.leads.takeWhile fun lead => (series.atLead? lead).isSome

theorem LeadCursor.forall₂_takeSteps (series : TimeSeries α) (leads : List Duration) :
    List.Forall₂ (fun lead item => series.atLead? lead = some item)
      (leads.takeWhile fun lead => (series.atLead? lead).isSome)
      ((Cursor.takeSteps leads.length (⟨series, leads⟩ : LeadCursor α)).map Prod.fst) := by
  have next (lead : Duration) (rest : List Duration) :
      Cursor.next (⟨series, lead :: rest⟩ : LeadCursor α)
        = (series.atLead? lead, ⟨series, rest⟩) := by
    change (((series.atLead? lead).map _).map _, _) = _
    cases series.atLead? lead <;> rfl
  induction leads with
  | nil => exact .nil
  | cons lead rest ih =>
    rw [List.length_cons, Cursor.takeSteps, next]
    cases found : series.atLead? lead with
    | none =>
      rw [List.takeWhile_cons_of_neg (by simp [found])]
      exact .nil
    | some item =>
      rw [List.takeWhile_cons_of_pos (by simp [found])]
      exact .cons found ih

/-- The walk by lead has an item for every lead up to the first at which nothing is found. -/
theorem TimeSeries.forall₂_items_byLead (series : TimeSeries α) :
    List.Forall₂ (fun lead item => series.atLead? lead = some item) series.foundLeads
      (Cursor.items series.byLead) :=
  LeadCursor.forall₂_takeSteps series series.leads

theorem TimeSeries.foundLeads_eq {series : TimeSeries α}
    (occur : ∀ lead ∈ series.leads, (series.atLead? lead).isSome) :
    series.foundLeads = series.leads :=
  List.takeWhile_eq_self_iff.mpr occur

/-- The walk of a regular series by lead has the items of the series. -/
theorem RegularSeries.map_series_items_byLead {regular : RegularSeries α}
    (occur : ∀ lead ∈ regular.series.leads, (regular.series.atLead? lead).isSome) :
    (Cursor.items regular.byLead).map RegularSeries.series
      = Cursor.items regular.series.byLead := by
  have gives : Gives regular.series.byLead _ := LeadCursor.gives regular.byLead occur
  have regulars : Gives regular.byLead _ := RegularLeadCursor.foresees.gives occur
  rw [gives.items_eq, regulars.items_eq]

end Forecast
