import Forecast.Collectors
import Forecast.Series.Regular

/-!
# Measuring series

Every series that is built is measured; an attempt that fails is not.
-/

namespace Forecast

/-- Measure the success of an attempt. -/
def Measurement.ofBuild {α : Type} (kind : SeriesKind) : Except Error α → List Measurement
  | .ok _ => [.seriesBuilt kind]
  | .error _ => []

/-- Build a series and measure it. -/
def SeriesBuilder.buildMeasured {α : Type} [Sample α] (builder : SeriesBuilder α) :
    Except Error (TimeSeries α) × List Measurement :=
  (builder.build, Measurement.ofBuild .irregular builder.build)

/-- Build a regular series and measure it. -/
def RegularBuilder.buildMeasured {α : Type} [Sample α] (builder : RegularBuilder α) :
    Except Error (RegularSeries α) × List Measurement :=
  (builder.build, Measurement.ofBuild .regular builder.build)

end Forecast
