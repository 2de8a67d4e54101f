/-!
# The catalogue of metrics

The closed sets of output shapes, metrics, components of scores and named axes.  Each has a name
and is ordered as it is listed.
-/

namespace Forecast

/-- The shape of a metric output. -/
inductive OutputGroup where
  /-- One real score per metric and component. -/
  | doubleScore
  /-- One duration per metric and component. -/
  | durationScore
  /-- Named vectors, such as the axes of a diagram. -/
  | multiVector
  /-- A table of numbers, such as a contingency table. -/
  | matrix
  /-- Quantiles of boxes along an axis. -/
  | boxPlot
  /-- Instants with durations, such as timing errors. -/
  | paired
deriving DecidableEq, Inhabited, Ord

namespace OutputGroup

def all : List OutputGroup :=
  [doubleScore, durationScore, multiVector, matrix, boxPlot, paired]

def name : OutputGroup → String
  | doubleScore => "DOUBLE_SCORE"
  | durationScore => "DURATION_SCORE"
  | multiVector => "MULTI_VECTOR"
  | matrix => "MATRIX"
  | boxPlot => "BOX_PLOT"
  | paired => "PAIRED"

/-- The group with a name. -/
def ofName? (name : String) : Option OutputGroup := all.find? fun item => item.name == name

end OutputGroup

/-- A verification metric. -/
inductive Metric where
  | biasFraction
  | brierScore
  | brierSkillScore
  | boxPlotOfErrorsByObservedValue
  | boxPlotOfErrorsByForecastValue
  | coefficientOfDetermination
  | continuousRankedProbabilityScore
  | continuousRankedProbabilitySkillScore
  | contingencyTable
  | pearsonCorrelationCoefficient
  | threatScore
  | equitableThreatScore
  | frequencyBias
  | indexOfAgreement
  | klingGuptaEfficiency
  | meanAbsoluteError
  | meanError
  | meanSquareError
  | meanSquareErrorSkillScore
  | peirceSkillScore
  | probabilityOfDetection
  | probabilityOfFalseDetection
  | quantileQuantileDiagram
  | rankHistogram
  | relativeOperatingCharacteristicDiagram
  | relativeOperatingCharacteristicScore
  | reliabilityDiagram
  | rootMeanSquareError
  | sampleSize
  | sumOfSquareError
  | volumetricEfficiency
  | timeToPeakError
  | timeToPeakErrorStatistic
  | timeToPeakRelativeError
  | timeToPeakRelativeErrorStatistic
deriving DecidableEq, Inhabited, Ord

namespace Metric

def all : List Metric :=
  [biasFraction, brierScore, brierSkillScore, boxPlotOfErrorsByObservedValue,
    boxPlotOfErrorsByForecastValue, coefficientOfDetermination,
    continuousRankedProbabilityScore, continuousRankedProbabilitySkillScore, contingencyTable,
    pearsonCorrelationCoefficient, threatScore, equitableThreatScore, frequencyBias,
    indexOfAgreement, klingGuptaEfficiency, meanAbsoluteError, meanError, meanSquareError,
    meanSquareErrorSkillScore, peirceSkillScore, probabilityOfDetection,
    probabilityOfFalseDetection, quantileQuantileDiagram, rankHistogram,
    relativeOperatingCharacteristicDiagram, relativeOperatingCharacteristicScore,
    reliabilityDiagram, rootMeanSquareError, sampleSize, sumOfSquareError,
    volumetricEfficiency, timeToPeakError, timeToPeakErrorStatistic, timeToPeakRelativeError,
    timeToPeakRelativeErrorStatistic]

def name : Metric → String
  | biasFraction => "BIAS_FRACTION"
  | brierScore => "BRIER_SCORE"
  | brierSkillScore => "BRIER_SKILL_SCORE"
  | boxPlotOfErrorsByObservedValue => "BOX_PLOT_OF_ERRORS_BY_OBSERVED_VALUE"
  | boxPlotOfErrorsByForecastValue => "BOX_PLOT_OF_ERRORS_BY_FORECAST_VALUE"
  | coefficientOfDetermination => "COEFFICIENT_OF_DETERMINATION"
  | continuousRankedProbabilityScore => "CONTINUOUS_RANKED_PROBABILITY_SCORE"
  | continuousRankedProbabilitySkillScore => "CONTINUOUS_RANKED_PROBABILITY_SKILL_SCORE"
  | contingencyTable => "CONTINGENCY_TABLE"
  | pearsonCorrelationCoefficient => "PEARSON_CORRELATION_COEFFICIENT"
  | threatScore => "THREAT_SCORE"
  | equitableThreatScore => "EQUITABLE_THREAT_SCORE"
  | frequencyBias => "FREQUENCY_BIAS"
  | indexOfAgreement => "INDEX_OF_AGREEMENT"
  | klingGuptaEfficiency => "KLING_GUPTA_EFFICIENCY"
  | meanAbsoluteError => "MEAN_ABSOLUTE_ERROR"
  | meanError => "MEAN_ERROR"
  | meanSquareError => "MEAN_SQUARE_ERROR"
  | meanSquareErrorSkillScore => "MEAN_SQUARE_ERROR_SKILL_SCORE"
  | peirceSkillScore => "PEIRCE_SKILL_SCORE"
  | probabilityOfDetection => "PROBABILITY_OF_DETECTION"
  | probabilityOfFalseDetection => "PROBABILITY_OF_FALSE_DETECTION"
  | quantileQuantileDiagram => "QUANTILE_QUANTILE_DIAGRAM"
  | rankHistogram => "RANK_HISTOGRAM"
  | relativeOperatingCharacteristicDiagram => "RELATIVE_OPERATING_CHARACTERISTIC_DIAGRAM"
  | relativeOperatingCharacteristicScore => "RELATIVE_OPERATING_CHARACTERISTIC_SCORE"
  | reliabilityDiagram => "RELIABILITY_DIAGRAM"
  | rootMeanSquareError => "ROOT_MEAN_SQUARE_ERROR"
  | sampleSize => "SAMPLE_SIZE"
  | sumOfSquareError => "SUM_OF_SQUARE_ERROR"
  | volumetricEfficiency => "VOLUMETRIC_EFFICIENCY"
  | timeToPeakError => "TIME_TO_PEAK_ERROR"
  | timeToPeakErrorStatistic => "TIME_TO_PEAK_ERROR_STATISTIC"
  | timeToPeakRelativeError => "TIME_TO_PEAK_RELATIVE_ERROR"
  | timeToPeakRelativeErrorStatistic => "TIME_TO_PEAK_RELATIVE_ERROR_STATISTIC"

/-- The metric with a name. -/
def ofName? (name : String) : Option Metric := all.find? fun item => item.name == name

theorem ctorIdx_inj {left right : Metric} (indices : left.ctorIdx = right.ctorIdx) :
    left = right := by
  rw [← Metric.ofNat_ctorIdx left, indices, Metric.ofNat_ctorIdx]

/-- Shape of the outputs of a metric. -/
def group : Metric → OutputGroup
  | boxPlotOfErrorsByObservedValue | boxPlotOfErrorsByForecastValue => .boxPlot
  | contingencyTable => .matrix
  | quantileQuantileDiagram | rankHistogram | relativeOperatingCharacteristicDiagram
  | reliabilityDiagram => .multiVector
  | timeToPeakError | timeToPeakRelativeError => .paired
  | timeToPeakErrorStatistic | timeToPeakRelativeErrorStatistic => .durationScore
  | _ => .doubleScore

end Metric

/-- A component of a decomposed score, or a summary statistic. -/
inductive Component where
  | main
  | reliability
  | resolution
  | uncertainty
  | potential
  | typeIiConditionalBias
  | discrimination
  | sharpness
  | mean
  | median
  | standardDeviation
  | minimum
  | maximum
  | meanAbsolute
deriving DecidableEq, Inhabited, Ord

namespace Component

def all : List Component :=
  [main, reliability, resolution, uncertainty, potential, typeIiConditionalBias,
    discrimination, sharpness, mean, median, standardDeviation, minimum, maximum, meanAbsolute]

def name : Component → String
  | main => "MAIN"
  | reliability => "RELIABILITY"
  | resolution => "RESOLUTION"
  | uncertainty => "UNCERTAINTY"
  | potential => "POTENTIAL"
  | typeIiConditionalBias => "TYPE_II_CONDITIONAL_BIAS"
  | discrimination => "DISCRIMINATION"
  | sharpness => "SHARPNESS"
  | mean => "MEAN"
  | median => "MEDIAN"
  | standardDeviation => "STANDARD_DEVIATION"
  | minimum => "MINIMUM"
  | maximum => "MAXIMUM"
  | meanAbsolute => "MEAN_ABSOLUTE"

/-- The component with a name. -/
def ofName? (name : String) : Option Component := all.find? fun item => item.name == name

theorem ctorIdx_inj {left right : Component} (indices : left.ctorIdx = right.ctorIdx) :
    left = right := by
  rw [← Component.ofNat_ctorIdx left, indices, Component.ofNat_ctorIdx]

end Component

/-- A named axis of a vector, matrix or box plot. -/
inductive Dimension where
  | probabilityOfFalseDetection
  | probabilityOfDetection
  | rankOrder
  | forecastProbability
  | observedRelativeFrequency
  | observedQuantiles
  | predictedQuantiles
  | forecastError
  | observedValue
  | forecastValue
  | ensembleMean
  | ensembleMedian
  | sampleSize
  | truePositives
  | falsePositives
  | falseNegatives
  | trueNegatives
deriving DecidableEq, Inhabited, Ord

namespace Dimension

def all : List Dimension :=
  [probabilityOfFalseDetection, probabilityOfDetection, rankOrder, forecastProbability,
    observedRelativeFrequency, observedQuantiles, predictedQuantiles, forecastError,
    observedValue, forecastValue, ensembleMean, ensembleMedian, sampleSize, truePositives,
    falsePositives, falseNegatives, trueNegatives]

def name : Dimension → String
  | probabilityOfFalseDetection => "PROBABILITY_OF_FALSE_DETECTION"
  | probabilityOfDetection => "PROBABILITY_OF_DETECTION"
  | rankOrder => "RANK_ORDER"
  | forecastProbability => "FORECAST_PROBABILITY"
  | observedRelativeFrequency => "OBSERVED_RELATIVE_FREQUENCY"
  | observedQuantiles => "OBSERVED_QUANTILES"
  | predictedQuantiles => "PREDICTED_QUANTILES"
  | forecastError => "FORECAST_ERROR"
  | observedValue => "OBSERVED_VALUE"
  | forecastValue => "FORECAST_VALUE"
  | ensembleMean => "ENSEMBLE_MEAN"
  | ensembleMedian => "ENSEMBLE_MEDIAN"
  | sampleSize => "SAMPLE_SIZE"
  | truePositives => "TRUE_POSITIVES"
  | falsePositives => "FALSE_POSITIVES"
  | falseNegatives => "FALSE_NEGATIVES"
  | trueNegatives => "TRUE_NEGATIVES"

/-- The dimension with a name. -/
def ofName? (name : String) : Option Dimension := all.find? fun item => item.name == name

end Dimension

end Forecast
