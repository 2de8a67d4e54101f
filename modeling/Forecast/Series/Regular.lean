import Forecast.Series.Builder

/-!
# Regular series

The issuances of a regular series, those of its baseline included, all have the same number of
events, at the leads `step`, `2 · step`, and so on.  Filters of leads must keep such multiples of
the first lead that they keep.
-/

namespace Forecast

/-- A lead beside the multiple of a step that it should be. -/
structure LeadCheck where
  /-- Number of steps. -/
  multiple : Nat
  /-- The multiple of the step. -/
  expected : Duration
  actual : Duration
deriving DecidableEq

namespace LeadCheck

/-- Whether the lead is not the multiple. -/
def isOff (check : LeadCheck) : Bool := check.actual != check.expected

/-- Compare leads with the multiples of a step from one on, up to the first lead that is off. -/
def compareFrom (step : Duration) (multiple : Nat) : List Duration → List LeadCheck
  | [] => []
  | actual :: rest =>
      let check : LeadCheck := ⟨multiple, step.times multiple, actual⟩
      check :: if check.isOff then [] else compareFrom step (multiple + 1) rest

/-- The first lead that is not the multiple of the step that it should be. -/
def firstOff? (step : Duration) (leads : List Duration) : Option LeadCheck :=
  (compareFrom step 1 leads).find? isOff

end LeadCheck

/-- A series whose issuances have all their events at the multiples of a step. -/
structure RegularSeries (α : Type) where
  series : TimeSeries α
  step : Duration
deriving DecidableEq, Inhabited

namespace RegularSeries

variable {α : Type}

/-- Accept issuances of `count` events at the multiples of a step. -/
def checkIssuances (part : SeriesPart) (step : Duration) (count : Nat) :
    List (Issuance α) → Except DataError Unit
  | [] => pure ()
  | issuance :: rest => do
      if issuance.events.length ≠ count then
        throw (.stepCountMismatch part issuance.basis count issuance.events.length)
      match LeadCheck.firstOff? step issuance.leads with
      | some check => throw (.offStep issuance.basis step check.expected check.actual)
      | none => checkIssuances part step count rest

/-- Check a series against a positive step.  Every issuance must have as many events as the first,
and the baseline as many as the series. -/
def checkSteps (series : TimeSeries α) (step : Duration) : Except DataError Unit := do
  if step ≤ Duration.zero then throw (.invalidTimeStep (some step))
  let count :=
    (series.issuances ++ series.baselineIssuances).head?.elim 0 fun issuance =>
      issuance.events.length
  checkIssuances .main step count series.issuances
  checkIssuances .baseline step count series.baselineIssuances

/-- A series as a regular one. -/
def ofSeries (series : TimeSeries α) (step : Duration) : Except Error (RegularSeries α) :=
  match checkSteps series step with
  | .ok () => .ok ⟨series, step⟩
  | .error cause => .error (.invalidInput cause)

/-- Numeric equality of the series, with the same step. -/
def same [Sample α] (left right : RegularSeries α) : Bool :=
  left.step == right.step && left.series.same right.series

/-- The issuances whose basis time is kept; the series itself if all are. -/
def filterByBasis? (regular : RegularSeries α) (keep : Instant → Bool) :
    Option (RegularSeries α) :=
  if (regular.series.issuances ++ regular.series.baselineIssuances).all
      fun issuance => keep issuance.basis then some regular
  else (regular.series.filterByBasis? keep).map fun series => ⟨series, regular.step⟩

/-- The leads that are kept, as a regular series with the first of them as its step. -/
def filterByLead (regular : RegularSeries α) (keep : Duration → Bool) :
    Except Error (Option (RegularSeries α)) :=
  match regular.series.leads.filter keep with
  | [] => pure none
  | step :: rest =>
      let retained := step :: rest
      match LeadCheck.firstOff? step retained with
      | some check =>
          throw (.invalidInput (.irregularFilter check.actual check.multiple step))
      | none =>
          let series? := regular.series.filterByLead? fun lead =>
            (bisect (fun kept => compare kept lead) retained).isSome
          pure (series?.map fun series => ⟨series, step⟩)

end RegularSeries

/-- What has been contributed to a regular series. -/
structure RegularBuilder (α : Type) where
  /-- Contributions to the series. -/
  inner : SeriesBuilder α := {}
  /-- The step, once known. -/
  step : Option Duration := none

namespace RegularBuilder

variable {α : Type}

def withStep (builder : RegularBuilder α) (step : Duration) : RegularBuilder α :=
  { builder with step := some step }

def add (builder : RegularBuilder α) (contribution : Contribution α) : RegularBuilder α :=
  { builder with inner := builder.inner.add contribution }

/-- Merge a regular series, whose step must agree with the one known. -/
def merge (builder : RegularBuilder α) (regular : RegularSeries α) :
    Except Error (RegularBuilder α) :=
  match builder.step with
  | some expected =>
      if expected = regular.step then pure (builder.add (.merge regular.series))
      else throw (.invalidInput (.timeStepMismatch expected regular.step))
  | none => pure ((builder.withStep regular.step).add (.merge regular.series))

/-- Build the regular series.  A missing step is reported before any fault in the data. -/
def build [Sample α] (builder : RegularBuilder α) : Except Error (RegularSeries α) :=
  match builder.step with
  | none => throw (.invalidInput (.invalidTimeStep none))
  | some step =>
      if step ≤ Duration.zero then throw (.invalidInput (.invalidTimeStep (some step)))
      else
        match builder.inner.assemble with
        | .ok series => RegularSeries.ofSeries series step
        | .error cause => throw (.invalidInput cause)

end RegularBuilder

end Forecast
