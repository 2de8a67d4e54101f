import Forecast.Output.Metadata

/-!
# Errors

Faults in data carry their causes; the wording is in the `message` functions.  An `Error` is a
fault in the input, a lookup that found nothing, a failed aggregation, or a problem with settings.
-/

namespace Forecast

/-- What is missing where at least one item is required. -/
inductive Requirement where
  | windows
  | metadata
  | issuances
  | vectors
  | matrixCells
  | probabilities
  | entries
  | stores
  /-- Outputs of a store of several metrics. -/
  | outputs
deriving DecidableEq

def Requirement.text : Requirement → String
  | windows => "cannot union an empty set of time windows"
  | metadata => "cannot find the union of empty metadata"
  | issuances => "a time-series requires at least one atomic series"
  | vectors => "a multi-vector output needs at least one vector"
  | matrixCells => "a matrix output needs at least one cell"
  | probabilities => "box plots need at least one probability"
  | entries => "a metric output store needs at least one entry"
  | stores => "no stores to combine"
  | outputs => "a multi-metric store needs at least one output"

/-- The part of a series that an issuance belongs to. -/
inductive SeriesPart where
  | main
  | baseline
deriving DecidableEq

/-- Name of a part. -/
def SeriesPart.name : SeriesPart → String
  | main => "main"
  | baseline => "baseline"

/-- Why metadata or sizes that must agree do not. -/
inductive Mismatch where
  /-- Two samples have different units or datasets. -/
  | source (expected found : SampleMetadata)
  /-- Vectors of one output differ in length. -/
  | vectorLengths
  /-- Rows of a matrix differ in length. -/
  | rowLengths
  /-- A matrix has more or fewer cells than names. -/
  | cellNames (expected found : Nat)
  /-- A box has more or fewer quantiles than probabilities. -/
  | quantileCount (linked : Binary64) (found expected : Nat)
  /-- The quantiles of a box descend somewhere. -/
  | unsortedQuantiles (linked : Binary64)
  /-- An output in a store does not measure what the first one does. -/
  | entry (key : CellKey) (found reference : OutputMetadata)
  /-- Metadata given to a store does not describe its first output. -/
  | replacement (found reference : OutputMetadata)
deriving DecidableEq

def Mismatch.text : Mismatch → String
  | source expected found =>
      "only the time window and threshold can differ when finding the union of metadata: expected "
        ++ expected.sourceText ++ ", found " ++ found.sourceText
  | vectorLengths => "the vectors of a multi-vector output must have the same length"
  | rowLengths => "the rows of a matrix output must have the same length"
  | cellNames expected found =>
      "expected " ++ Digits.text expected ++ " cell names, found " ++ Digits.text found
  | quantileCount linked found expected =>
      "box at " ++ linked.text ++ " has " ++ Digits.text found ++ " quantiles, expected "
        ++ Digits.text expected
  | unsortedQuantiles linked => "quantiles of the box at " ++ linked.text ++ " are not sorted"
  | entry key found reference =>
      "output at " ++ key.text ++ " has metadata " ++ found.text ++ " which differs from "
        ++ reference.text
  | replacement found reference =>
      "override metadata " ++ found.text ++ " differs from " ++ reference.text

/-- Why a climatology is unusable. -/
inductive ClimatologyFault where
  | noValues
  | noFiniteValue
deriving DecidableEq

/-- Wording of a fault in a climatology. -/
def ClimatologyFault.text : ClimatologyFault → String
  | noValues => "cannot build climatology from empty data"
  | noFiniteValue => "climatology must contain at least one finite value"

/-- What a bound of a threshold is measured in. -/
inductive BoundKind where
  | value
  | probability
deriving DecidableEq

/-- Name of a kind of bound. -/
def BoundKind.name : BoundKind → String
  | value => "value"
  | probability => "probability"

/-- Why the definition of a threshold, or of the probabilities of box plots, is inconsistent. -/
inductive ThresholdFault where
  /-- There are neither values nor probabilities. -/
  | noBounds
  /-- The lower probability is not a probability. -/
  | lowerProbability (bound : Binary64)
  /-- The upper probability is not a probability. -/
  | upperProbability (bound : Binary64)
  /-- A condition with two bounds lacks the upper one. -/
  | missingUpper (kind : BoundKind)
  /-- A condition with one bound has an upper one. -/
  | unexpectedUpper (kind : BoundKind)
  /-- The upper bound is not above the lower one. -/
  | unorderedBounds (kind : BoundKind) (lower upper : Binary64)
  /-- An infinite condition has a label. -/
  | infiniteLabelled
  /-- Probabilities of box plots leave the unit interval or do not ascend. -/
  | boxProbabilities (probabilities : List Binary64)
deriving DecidableEq

/-- Wording of a fault in a threshold. -/
def ThresholdFault.text : ThresholdFault → String
  | noBounds => "specify one or more values for the threshold"
  | lowerProbability bound =>
      "the threshold probability is out of bounds [0,1]: " ++ bound.text
  | upperProbability bound =>
      "the upper threshold probability is out of bounds [0,1]: " ++ bound.text
  | missingUpper kind => "a between condition requires an upper " ++ kind.name
  | unexpectedUpper kind => "an upper " ++ kind.name ++ " requires a between condition"
  | unorderedBounds kind lower upper =>
      "the upper " ++ kind.name ++ " must be greater than the lower " ++ kind.name ++ ": ["
        ++ lower.text ++ "," ++ upper.text ++ "]"
  | infiniteLabelled => "cannot label a non-finite threshold"
  | boxProbabilities probabilities =>
      "box plot probabilities must be strictly ascending in [0, 1]: "
        ++ Binary64.listText probabilities

/-- The pair of bounds of a window that is inverted. -/
inductive WindowFault where
  | reference
  | valid
  | lead
deriving DecidableEq

/-- Wording of a fault in a window. -/
def WindowFault.text : WindowFault → String
  | reference => "the latest reference time is before the earliest reference time"
  | valid => "the latest valid time is before the earliest valid time"
  | lead => "the latest lead duration is before the earliest lead duration"

/-- A fault in the data that a value is built from. -/
inductive DataError where
  | empty (requirement : Requirement)
  /-- An issuance has no events. -/
  | emptySeries (basis : Instant)
  /-- The events of an issuance do not ascend strictly; `valid` is the first that fails to. -/
  | unorderedEvents (basis valid : Instant)
  /-- The ensembles of an issuance differ in width. -/
  | ensembleWidthMismatch (basis : Instant) (expected actual : Nat)
  /-- An ensemble has no members. -/
  | emptyEnsemble
  /-- The issuances of a regular series differ in length. -/
  | stepCountMismatch (part : SeriesPart) (basis : Instant) (expected actual : Nat)
  /-- A lead of a regular series is not the multiple of the step that it should be. -/
  | offStep (basis : Instant) (step expected actual : Duration)
  /-- The step of a regular series is missing or not positive. -/
  | invalidTimeStep (step : Option Duration)
  /-- Regular series of different steps are merged. -/
  | timeStepMismatch (expected actual : Duration)
  /-- A filter of leads would leave gaps in a regular series. -/
  | irregularFilter (actual : Duration) (multiple : Nat) (step : Duration)
  /-- Metadata or sizes that must agree do not. -/
  | metadataMismatch (mismatch : Mismatch)
  | invalidClimatology (fault : ClimatologyFault)
  /-- A threshold, or the probabilities of box plots, are inconsistent. -/
  | invalidThreshold (fault : ThresholdFault)
  /-- Bounds of a window are inverted. -/
  | invalidTimeWindow (fault : WindowFault)
deriving DecidableEq

/-- Wording of a fault in data. -/
def DataError.message : DataError → String
  | empty requirement => "Missing required data: " ++ requirement.text
  | emptySeries basis => "Atomic series with basis time " ++ basis.text ++ " has no events"
  | unorderedEvents basis valid =>
      "Events of the atomic series with basis time " ++ basis.text
        ++ " are not strictly ascending at " ++ valid.text
  | ensembleWidthMismatch basis expected actual =>
      "Ensemble width mismatch in the atomic series with basis time " ++ basis.text
        ++ ": expected " ++ Digits.text expected ++ " members, found " ++ Digits.text actual
  | emptyEnsemble => "An ensemble pair requires at least one member"
  | stepCountMismatch part basis expected actual =>
      "Inconsistent " ++ part.name ++ " event count in a regular time-series: expected "
        ++ Digits.text expected ++ ", found " ++ Digits.text actual ++ " at basis time "
        ++ basis.text
  | offStep basis step expected actual =>
      "Lead duration " ++ actual.text ++ " of the atomic series with basis time " ++ basis.text
        ++ " does not match the expected lead " ++ expected.text ++ " for a time step of "
        ++ step.text
  | invalidTimeStep step =>
      "A regular time-series requires a positive time step, found " ++ Duration.optionText step
  | timeStepMismatch expected actual =>
      "The input time-series has a time step of " ++ actual.text
        ++ ", which is inconsistent with the time step of the existing data, " ++ expected.text
  | irregularFilter actual multiple step =>
      "The filtered view of durations would produce an irregular time-series: retained lead "
        ++ actual.text ++ " is not " ++ Digits.text multiple ++ " times the first retained lead "
        ++ step.text
  | metadataMismatch mismatch => "Metadata mismatch: " ++ mismatch.text
  | invalidClimatology fault => "Invalid climatology: " ++ fault.text
  | invalidThreshold fault => "Invalid threshold: " ++ fault.text
  | invalidTimeWindow fault => "Invalid time window: " ++ fault.text

/-- Why a computation of a cell failed. -/
inductive Failure where
  /-- The computation reported a problem. -/
  | reported (message : String)
  /-- It panicked, of which the runtime gives a report. -/
  | panicked (report : String)
deriving DecidableEq

def Failure.text : Failure → String
  | reported message => message
  | panicked report => "the computation task panicked: " ++ report

/-- Why a computation of a cell vanished without a result. -/
inductive Interruption where
  | cancelled
  /-- Its producer gave up the channel. -/
  | abandoned
deriving DecidableEq

def Interruption.text : Interruption → String
  | cancelled => "the computation task was cancelled"
  | abandoned => "the producer dropped the channel without sending a result"

/-- Why the outputs of one shape could not be put together. -/
inductive AggregationError where
  | cellFailed (group : OutputGroup) (key : CellKey) (failure : Failure)
  | interrupted (group : OutputGroup) (key : CellKey) (interruption : Interruption)
  /-- The outputs of a metric cannot be filed together. -/
  | inconsistent (group : OutputGroup) (cause : DataError)
deriving DecidableEq

namespace AggregationError

/-- Shape of the outputs. -/
def group : AggregationError → OutputGroup
  | cellFailed group _ _ | interrupted group _ _ | inconsistent group _ => group

/-- The cell at fault, if it is one. -/
def key? : AggregationError → Option CellKey
  | cellFailed _ key _ | interrupted _ key _ => some key
  | inconsistent _ _ => none

end AggregationError

/-- A problem with settings or with where they apply. -/
inductive ConfigurationFault where
  /-- No cell may be computed at a time. -/
  | noConcurrentCells
  /-- A log level has no meaning. -/
  | unknownLevel (level : String)
  /-- A settings document cannot be read. -/
  | unreadable
  /-- A number does not fit a settings document. -/
  | unwritable
  /-- A log filter cannot be read. -/
  | invalidFilter (filter : String)
  /-- A computation was submitted where nothing can run it. -/
  | noRuntime
deriving DecidableEq

/-- Wording of a problem with settings. -/
def ConfigurationFault.text : ConfigurationFault → String
  | noConcurrentCells => "Max concurrent cells must be > 0"
  | unknownLevel level => "Unknown log level: " ++ level
  | unreadable => "Failed to parse config file"
  | unwritable => "Failed to serialize config"
  | invalidFilter filter => "Invalid log filter " ++ filter
  | noRuntime => "submitting a cell requires a runtime"

/-- Any error of the library. -/
inductive Error where
  /-- A fault in the input. -/
  | invalidInput (cause : DataError)
  | noMatchingData (subject : String)
  /-- Outputs of one shape could not be put together. -/
  | aggregation (cause : AggregationError)
  | configuration (fault : ConfigurationFault)
  /-- A file could not be read. -/
  | unavailable
deriving DecidableEq

/-- Wording of a failed aggregation. -/
def AggregationError.message : AggregationError → String
  | .cellFailed group key failure =>
      "While retrieving the results for group " ++ group.name ++ " at lead time "
        ++ key.window.text ++ " and threshold " ++ key.threshold.text ++ ": " ++ failure.text
  | .interrupted group key interruption =>
      "Interrupted while retrieving the results for group " ++ group.name ++ " at lead time "
        ++ key.window.text ++ " and threshold " ++ key.threshold.text ++ ": " ++ interruption.text
  | .inconsistent group cause =>
      "Inconsistent outputs for group " ++ group.name ++ ": Invalid input: " ++ cause.message

/-- Kind of a fault in data, by name. -/
def DataError.kind : DataError → String
  | empty _ => "Empty"
  | emptySeries _ => "EmptySeries"
  | unorderedEvents _ _ => "UnorderedEvents"
  | ensembleWidthMismatch _ _ _ => "EnsembleWidthMismatch"
  | emptyEnsemble => "EmptyEnsemble"
  | stepCountMismatch _ _ _ _ => "StepCountMismatch"
  | offStep _ _ _ _ => "OffStep"
  | invalidTimeStep _ => "InvalidTimeStep"
  | timeStepMismatch _ _ => "TimeStepMismatch"
  | irregularFilter _ _ _ => "IrregularFilter"
  | metadataMismatch _ => "MetadataMismatch"
  | invalidClimatology _ => "InvalidClimatology"
  | invalidThreshold _ => "InvalidThreshold"
  | invalidTimeWindow _ => "InvalidTimeWindow"

/-- Kind of a failed aggregation, by name. -/
def AggregationError.kind : AggregationError → String
  | .cellFailed _ _ _ => "CellFailed"
  | .interrupted _ _ _ => "Interrupted"
  | .inconsistent _ _ => "Inconsistent"

/-- Kind of an error, by name, with the kind of its cause after a slash. -/
def Error.kind : Error → String
  | invalidInput cause => "InvalidInput/" ++ cause.kind
  | noMatchingData _ => "NoMatchingData"
  | aggregation cause => "Aggregation/" ++ cause.kind
  | configuration _ => "Configuration"
  | unavailable => "Io"

def Error.message : Error → String
  | invalidInput cause => "Invalid input: " ++ cause.message
  | noMatchingData subject => "No matching data: " ++ subject
  | aggregation cause => "Aggregation error: " ++ cause.message
  | configuration fault => "Configuration error: " ++ fault.text
  | unavailable => "IO error"

/-- Kind and wording of a fault in data. -/
def DataError.report (cause : DataError) : String × String := (cause.kind, cause.message)

/-- Kind and wording, which is all that a reader sees of an error. -/
def Error.report (error : Error) : String × String := (error.kind, error.message)

end Forecast
