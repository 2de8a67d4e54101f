import Forecast.Sample.Value

/-!
# Climatology

Reference data for one feature, sorted by the total order of patterns.  At least one value is
finite.
-/

namespace Forecast

/-- Reference data of a feature. -/
structure Climatology where
  /-- The values, in ascending order. -/
  values : List Binary64
deriving DecidableEq, Inhabited

namespace Climatology

/-- Build a climatology from values in any order. -/
def build (values : List Binary64) : Except DataError Climatology :=
  if values.isEmpty then throw (.invalidClimatology .noValues)
  else if !values.any Binary64.isFinite then throw (.invalidClimatology .noFiniteValue)
  else pure ⟨values.mergeSort fun left right => decide (left.rank ≤ right.rank)⟩

def size (climatology : Climatology) : Nat := climatology.values.length

/-- The finite values, in ascending order. -/
def finiteValues (climatology : Climatology) : List Binary64 :=
  climatology.values.filter Binary64.isFinite

/-- Numeric equality, value by value. -/
def same (left right : Climatology) : Bool := Binary64.sameAll left.values right.values

end Climatology

end Forecast
