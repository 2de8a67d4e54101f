import Forecast.Series.Ensemble

/-!
# Walking through views

A cursor is a place in a view of a series: by event, by issue, by lead, or by trace.  It knows how
many items are still to come.  Taking the next item gives the item and the place behind it; at the
end there is no item, and none ever after.
-/

namespace Forecast

/-- A place in a sequence of items. -/
class Cursor (σ : Type) (ι : outParam Type) where
  /-- Number of items still to come. -/
  remaining : σ → Nat
  /-- The next item, if there is one, and the place behind it. -/
  next : σ → Option ι × σ

namespace Cursor

variable {σ ι : Type} [Cursor σ ι]

/-- Take at most `limit` items, each with the place behind it. -/
def takeSteps : Nat → σ → List (ι × σ)
  | 0, _ => []
  | limit + 1, place =>
      match next place with
      | (some item, place) => (item, place) :: takeSteps limit place
      | (none, _) => []

/-- Every item still to come. -/
def items (place : σ) : List ι := (takeSteps (remaining place) place).map Prod.fst

/-- The item after `index` others. -/
def item? (place : σ) (index : Nat) : Option ι := (takeSteps (index + 1) place)[index]?.map Prod.fst

end Cursor

/-- A place among the events of a series. -/
structure EventCursor (α : Type) where
  /-- Events still to come. -/
  events : List (Event α)

/-- A place among the issuances of a series. -/
structure BasisCursor (α : Type) where
  series : TimeSeries α
  /-- Position of the next issuance. -/
  position : Nat

/-- A place among the leads of a series. -/
structure LeadCursor (α : Type) where
  series : TimeSeries α
  /-- Leads still to come. -/
  leads : List Duration

/-- A place among the issuances of a regular series. -/
structure RegularBasisCursor (α : Type) where
  /-- Place in the underlying series. -/
  inner : BasisCursor α
  /-- Step of the series. -/
  step : Duration

/-- A place among the leads of a regular series. -/
structure RegularLeadCursor (α : Type) where
  /-- Place in the underlying series. -/
  inner : LeadCursor α

/-- A place among the traces of a regular series of ensembles. -/
structure TraceCursor where
  regular : RegularSeries EnsemblePair
  /-- Position of the issuance. -/
  position : Nat
  /-- Next member of the issuance. -/
  member : Nat
  /-- Number of traces still to come. -/
  remaining : Nat

namespace EventCursor

variable {α : Type}

def next : EventCursor α → Option (Event α) × EventCursor α
  | ⟨[]⟩ => (none, ⟨[]⟩)
  | ⟨event :: rest⟩ => (some event, ⟨rest⟩)

instance : Cursor (EventCursor α) (Event α) where
  remaining cursor := cursor.events.length
  next := next

end EventCursor

namespace BasisCursor

variable {α : Type}

/-- The next issuance as a series of its own. -/
def next (cursor : BasisCursor α) : Option (TimeSeries α) × BasisCursor α :=
  match cursor.series.main.visible[cursor.position]? with
  | none => (none, cursor)
  | some span =>
      (some (cursor.series.narrow cursor.position span.basis),
        { cursor with position := cursor.position + 1 })

instance : Cursor (BasisCursor α) (TimeSeries α) where
  remaining cursor := cursor.series.seriesCount - cursor.position
  next := next

end BasisCursor

namespace LeadCursor

variable {α : Type}

/-- The next lead with the events at it. -/
def nextLead (cursor : LeadCursor α) : Option (Duration × TimeSeries α) × LeadCursor α :=
  match cursor.leads with
  | [] => (none, cursor)
  | lead :: leads =>
      ((cursor.series.atLead? lead).map fun series => (lead, series), { cursor with leads })

instance : Cursor (LeadCursor α) (TimeSeries α) where
  remaining cursor := cursor.leads.length
  next cursor :=
    let (item, cursor) := cursor.nextLead
    (item.map Prod.snd, cursor)

end LeadCursor

instance {α : Type} : Cursor (RegularBasisCursor α) (RegularSeries α) where
  remaining cursor := Cursor.remaining cursor.inner
  next cursor :=
    let (item, inner) := cursor.inner.next
    (item.map fun series => ⟨series, cursor.step⟩, { cursor with inner })

instance {α : Type} : Cursor (RegularLeadCursor α) (RegularSeries α) where
  remaining cursor := Cursor.remaining cursor.inner
  next cursor :=
    let (item, inner) := cursor.inner.nextLead
    (item.map fun (lead, series) => ⟨series, lead⟩, ⟨inner⟩)

namespace TraceCursor

/-- The position of the first issuance, from one on, that still has a member to come. -/
def seek (issuances : List (Issuance EnsemblePair)) (position member : Nat) :
    Option (Issuance EnsemblePair × Nat × Nat) :=
  match issuances with
  | [] => none
  | issuance :: rest =>
      if member < issuance.width then some (issuance, position, member)
      else seek rest (position + 1) 0

def next (cursor : TraceCursor) : Option (RegularSeries SinglePair) × TraceCursor :=
  let issuances := cursor.regular.series.issuances
  match seek (issuances.drop cursor.position) cursor.position cursor.member with
  | none => (none, { cursor with position := issuances.length, member := 0 })
  | some (issuance, position, member) =>
      (some (cursor.regular.trace issuance member),
        { cursor with position, member := member + 1, remaining := cursor.remaining - 1 })

instance : Cursor TraceCursor (RegularSeries SinglePair) where
  remaining cursor := cursor.remaining
  next := next

end TraceCursor

namespace TimeSeries

variable {α : Type}

/-- Every event, issuance by issuance. -/
def byEvent (series : TimeSeries α) : EventCursor α := ⟨series.events⟩

/-- One series per issuance. -/
def byBasis (series : TimeSeries α) : BasisCursor α := ⟨series, 0⟩

/-- One series per lead. -/
def byLead (series : TimeSeries α) : LeadCursor α := ⟨series, series.leads⟩

end TimeSeries

namespace RegularSeries

variable {α : Type}

/-- One regular series per issuance. -/
def byBasis (regular : RegularSeries α) : RegularBasisCursor α :=
  ⟨regular.series.byBasis, regular.step⟩

/-- One regular series per lead, with the lead as its step. -/
def byLead (regular : RegularSeries α) : RegularLeadCursor α := ⟨regular.series.byLead⟩

/-- One regular series per issuance and member. -/
def byTrace (regular : RegularSeries EnsemblePair) : TraceCursor :=
  { regular
    position := 0
    member := 0
    remaining := regular.series.issuances.foldl (fun total issuance => total + issuance.width) 0 }

end RegularSeries

end Forecast
