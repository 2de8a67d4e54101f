import Forecast.Series.Measured
import Forecast.Series.Trail

/-!
# Series of either kind

Where a series may be regular or not, what it offers is that of its kind.  Two series of different
kinds are compared without their steps.
-/

namespace Forecast

/-- A series that may be regular. -/
inductive AnySeries (α : Type) where
  | irregular (series : TimeSeries α)
  | regular (series : RegularSeries α)

namespace AnySeries

variable {α : Type}

/-- Whether it is regular. -/
def kind : AnySeries α → SeriesKind
  | irregular _ => .irregular
  | regular _ => .regular

/-- The series without its step. -/
def series : AnySeries α → TimeSeries α
  | irregular series => series
  | regular series => series.series

def step? : AnySeries α → Option Duration
  | irregular _ => none
  | regular series => some series.step

/-- Numeric equality, with the same step where both have one. -/
def same [Sample α] : AnySeries α → AnySeries α → Bool
  | regular left, regular right => left.same right
  | left, right => left.series.same right.series

/-- The walk through the issuances. -/
def byBasis : AnySeries α → Trail (AnySeries α)
  | irregular series => (Cursor.trail series.byBasis).map irregular
  | regular series => (Cursor.trail series.byBasis).map regular

/-- The walk through the leads. -/
def byLead : AnySeries α → Trail (AnySeries α)
  | irregular series => (Cursor.trail series.byLead).map irregular
  | regular series => (Cursor.trail series.byLead).map regular

/-- The issuances whose basis time is kept. -/
def filterByBasis? (keep : Instant → Bool) : AnySeries α → Option (AnySeries α)
  | irregular series => (series.filterByBasis? keep).map irregular
  | regular series => (series.filterByBasis? keep).map regular

/-- The events whose lead is kept, which those of a regular series refuse to leave irregular. -/
def filterByLead (keep : Duration → Bool) : AnySeries α → Except Error (Option (AnySeries α))
  | irregular series => .ok ((series.filterByLead? keep).map irregular)
  | regular series => (series.filterByLead keep).map (Option.map regular)

/-- The members that are kept. -/
def filterByMember? (keep : Nat → Bool) :
    AnySeries EnsemblePair → Option (AnySeries EnsemblePair)
  | irregular series => (series.filterByMember? keep).map irregular
  | regular series => (series.filterByMember? keep).map regular

/-- The walk through the traces of a regular series. -/
def byTrace? : AnySeries EnsemblePair → Option (Trail (AnySeries SinglePair))
  | irregular _ => none
  | regular series => some ((Cursor.trail series.byTrace).map regular)

end AnySeries

end Forecast
