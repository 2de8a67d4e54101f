import Forecast.Series.Regular

/-!
# Series of ensembles

Members of the ensembles of a series are selected by index, in the series and its baseline alike.
A trace follows one member through the events of an issuance, as pairs with one prediction.
-/

namespace Forecast

namespace Issuance

/-- Number of members, that of the first ensemble. -/
def width (issuance : Issuance EnsemblePair) : Nat :=
  issuance.events.head?.elim 0 fun event => event.value.width

/-- Keep members in every event; each must keep at least one. -/
def selectMembers? (keep : Nat → Bool) (issuance : Issuance EnsemblePair) :
    Option (Issuance EnsemblePair) := do
  let events ← issuance.events.mapM fun event => do
    let pair ← event.value.select? keep
    pure (⟨event.time, pair⟩ : Event EnsemblePair)
  pure ⟨issuance.basis, events⟩

/-- The events of one member. -/
def trace (member : Nat) (issuance : Issuance EnsemblePair) : List (Event SinglePair) :=
  issuance.events.filterMap fun event =>
    (event.value.trace? member).map fun pair => ⟨event.time, pair⟩

end Issuance

/-- Keep members in every issuance of a storage. -/
def Storage.selectMembers? (keep : Nat → Bool) (storage : Storage EnsemblePair) :
    Option (Storage EnsemblePair) := do
  let issuances ← storage.issuances.mapM (Issuance.selectMembers? keep)
  pure (Storage.ofIssuances issuances)

/-- Keep members of a series and its baseline.  There is no result if an event would keep none. -/
def TimeSeries.filterByMember? (series : TimeSeries EnsemblePair) (keep : Nat → Bool) :
    Option (TimeSeries EnsemblePair) := do
  let main ← series.main.selectMembers? keep
  match series.baseline with
  | none => pure (series.withStorage main none)
  | some baseline => do
      let baseline ← baseline.selectMembers? keep
      pure (series.withStorage main (some baseline))

namespace RegularSeries

/-- Keep members of a regular series and its baseline. -/
def filterByMember? (regular : RegularSeries EnsemblePair) (keep : Nat → Bool) :
    Option (RegularSeries EnsemblePair) :=
  (regular.series.filterByMember? keep).map fun series => ⟨series, regular.step⟩

/-- The trace of one member through an issuance, with that of the baseline issued at the same time
if the baseline has the member. -/
def trace (regular : RegularSeries EnsemblePair) (issuance : Issuance EnsemblePair)
    (member : Nat) : RegularSeries SinglePair :=
  let baseline := do
    let storage ← regular.series.baseline
    let position ← storage.position? issuance.basis
    let issued ← storage.issuance? position
    match issued.trace member with
    | [] => none
    | events => some (Storage.ofIssuances [⟨issuance.basis, events⟩])
  { series :=
      regular.series.withStorage
        (Storage.ofIssuances [⟨issuance.basis, issuance.trace member⟩]) baseline
    step := regular.step }

end RegularSeries

end Forecast
