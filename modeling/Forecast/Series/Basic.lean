import Forecast.Collection.SortedMap
import Forecast.Series.Storage

/-!
# Time series

A series is a collection of issuances with metadata, an optional baseline with metadata of its own,
and an optional climatology.  Basis times, leads and regularity are read off the issuances.
`content` is everything that a reader of a series can see, apart from how it is stored.
-/

namespace Forecast

/-- Issuances with an optional baseline. -/
structure TimeSeries (α : Type) where
  /-- Issuances of the series. -/
  main : Storage α
  /-- Issuances of the baseline. -/
  baseline : Option (Storage α)
  /-- Metadata of the series. -/
  metadata : SampleMetadata
  /-- Metadata of the baseline. -/
  baselineMetadata : SampleMetadata
  climatology : Option Climatology
deriving DecidableEq, Inhabited

/-- What a series holds, apart from its storage. -/
structure SeriesContent (α : Type) where
  /-- Issuances of the series. -/
  main : List (Issuance α)
  /-- Issuances of the baseline. -/
  baseline : Option (List (Issuance α))
  /-- Metadata of the series. -/
  metadata : SampleMetadata
  /-- Metadata of the baseline. -/
  baselineMetadata : SampleMetadata
  climatology : Option Climatology
deriving DecidableEq

/-- Gap between ascending leads, if all gaps are equal; a lone lead is its own gap. -/
def constantGap? : List Duration → Option Duration
  | [] => none
  | [only] => some only
  | first :: second :: rest =>
      let gap := second - first
      if ((second :: rest).zip (first :: second :: rest)).all fun pair => pair.1 - pair.2 == gap
      then some gap
      else none

/-- Constant gap of the leads that all issuances share. -/
def regularGap? {α : Type} : List (Issuance α) → Option Duration
  | [] => none
  | first :: rest =>
      if rest.all fun issuance => issuance.leads == first.leads then constantGap? first.leads
      else none

namespace TimeSeries

variable {α β : Type}

/-- What the series holds, apart from its storage. -/
def content (series : TimeSeries α) : SeriesContent α :=
  { main := series.main.issuances
    baseline := series.baseline.map Storage.issuances
    metadata := series.metadata
    baselineMetadata := series.baselineMetadata
    climatology := series.climatology }

/-- The same metadata and climatology over other issuances. -/
def withStorage (series : TimeSeries α) (main : Storage β) (baseline : Option (Storage β)) :
    TimeSeries β :=
  { main
    baseline
    metadata := series.metadata
    baselineMetadata := series.baselineMetadata
    climatology := series.climatology }

/-- Issuances in the order in which they were contributed. -/
def issuances (series : TimeSeries α) : List (Issuance α) := series.main.issuances

/-- Issuances of the baseline, none where there is no baseline. -/
def baselineIssuances (series : TimeSeries α) : List (Issuance α) :=
  (series.baseline.map Storage.issuances).getD []

/-- Every event, issuance by issuance. -/
def events (series : TimeSeries α) : List (Event α) := series.main.visibleEvents

/-- Whether there is a baseline. -/
def hasBaseline (series : TimeSeries α) : Bool := series.baseline.isSome

/-- The baseline as a series of its own. -/
def baselineSeries? (series : TimeSeries α) : Option (TimeSeries α) :=
  series.baseline.map fun baseline =>
    { main := baseline
      baseline := none
      metadata := series.baselineMetadata
      baselineMetadata := series.baselineMetadata
      climatology := series.climatology }

/-- Distinct basis times in order. -/
def basisTimes (series : TimeSeries α) : List Instant :=
  sortedDistinct (series.main.visible.map Span.basis)

def leads (series : TimeSeries α) : List Duration :=
  sortedDistinct (series.issuances.flatMap Issuance.leads)

def earliestBasis? (series : TimeSeries α) : Option Instant := series.basisTimes.head?

def seriesCount (series : TimeSeries α) : Nat := series.main.visible.length

def eventCount (series : TimeSeries α) : Nat := series.events.length

/-- Whether there is more than one issuance. -/
def hasMultiple (series : TimeSeries α) : Bool := decide (1 < series.seriesCount)

/-- Gap of a series whose issuances share evenly spaced leads. -/
def regularGap? (series : TimeSeries α) : Option Duration := Forecast.regularGap? series.issuances

/-- Whether the issuances share evenly spaced leads. -/
def isRegular (series : TimeSeries α) : Bool := series.regularGap?.isSome

/-- Numeric equality of issuances and climatology, with the same metadata. -/
def same [Sample α] (left right : TimeSeries α) : Bool :=
  Issuance.sameAll left.issuances right.issuances
    && (match left.baseline, right.baseline with
      | some left, some right => Issuance.sameAll left.issuances right.issuances
      | none, none => true
      | _, _ => false)
    && left.metadata == right.metadata
    && left.baselineMetadata == right.baselineMetadata
    && (match left.climatology, right.climatology with
      | some left, some right => left.same right
      | none, none => true
      | _, _ => false)

/-- Change the events of every issuance, of the baseline too.  There must be events left in the
series; a baseline left without events is dropped. -/
def rebuild? (change : Issuance α → List (Event β)) (series : TimeSeries α) :
    Option (TimeSeries β) :=
  (series.main.rebuild change).map fun main =>
    series.withStorage main (series.baseline.bind fun baseline => baseline.rebuild change)

/-- The issuances whose basis time is kept. -/
def filterByBasis? (series : TimeSeries α) (keep : Instant → Bool) : Option (TimeSeries α) :=
  series.rebuild? fun issuance => if keep issuance.basis then issuance.events else []

/-- The events whose lead is kept. -/
def filterByLead? (series : TimeSeries α) (keep : Duration → Bool) : Option (TimeSeries α) :=
  series.rebuild? fun issuance =>
    issuance.events.filter fun event => keep (issuance.leadOf event)

/-- The events at one lead. -/
def atLead? (series : TimeSeries α) (lead : Duration) : Option (TimeSeries α) :=
  series.rebuild? fun issuance => (issuance.eventAt? lead).toList

/-- One issuance with the baseline issued at the same time. -/
def narrow (series : TimeSeries α) (index : Nat) (basis : Instant) : TimeSeries α :=
  series.withStorage (series.main.narrow index) <|
    series.baseline.bind fun baseline => (baseline.position? basis).map baseline.narrow

end TimeSeries

end Forecast
