import Forecast.Output.Store

/-!
# Stores of several metrics

The outputs of a cell are filed by metric.  A multi-store has one store per metric; slicing it
slices every store and drops the metrics that are left without outputs.
-/

namespace Forecast

/-- Outputs of one cell by metric. -/
abbrev CellOutputs (group : OutputGroup) := SortedMap MetricKey (Output group)

/-- Stores by metric. -/
structure MultiStore (group : OutputGroup) where
  /-- Stores in the order of their metrics. -/
  stores : SortedMap MetricKey (Store group)

/-- What has been put into a multi-store to be built. -/
structure MultiStoreBuilder (group : OutputGroup) where
  /-- Builders by metric. -/
  builders : SortedMap MetricKey (StoreBuilder group) := SortedMap.empty

namespace MultiStoreBuilder

variable {group : OutputGroup}

def put (builder : MultiStoreBuilder group) (metric : MetricKey) (key : CellKey)
    (output : Output group) : MultiStoreBuilder group :=
  let store := (builder.builders.get? metric).getD {}
  ⟨builder.builders.insert metric (store.put key output)⟩

/-- Put every output of a cell. -/
def add (builder : MultiStoreBuilder group) (key : CellKey) (cell : CellOutputs group) :
    MultiStoreBuilder group :=
  cell.entries.foldl (fun builder entry => builder.put entry.1 key entry.2) builder

/-- Check every store, naming the fault in the data otherwise. -/
def assemble (builder : MultiStoreBuilder group) : Except DataError (MultiStore group) :=
  if builder.builders.isEmpty then throw (.empty .outputs)
  else do
    let stores ← builder.builders.traverse fun _ filled => filled.assemble
    pure ⟨stores⟩

def build (builder : MultiStoreBuilder group) : Except Error (MultiStore group) :=
  builder.assemble.mapError .invalidInput

end MultiStoreBuilder

namespace MultiStore

variable {group : OutputGroup}

/-- Slice every store and drop those without a slice. -/
def restrict? (slice : Store group → Option (Store group)) (multi : MultiStore group) :
    Option (MultiStore group) :=
  let stores := multi.stores.filterMap slice
  if stores.isEmpty then none else some ⟨stores⟩

/-- The outputs at one window. -/
def sliceByWindow? (multi : MultiStore group) (window : TimeWindow) : Option (MultiStore group) :=
  multi.restrict? fun store => store.sliceByWindow? window

/-- The outputs at one threshold. -/
def sliceByThreshold? (multi : MultiStore group) (threshold : Threshold) :
    Option (MultiStore group) :=
  multi.restrict? fun store => store.sliceByThreshold? threshold

/-- The store of a metric. -/
def get? (multi : MultiStore group) (metric : MetricKey) : Option (Store group) :=
  multi.stores.get? metric

/-- The store of a metric, which must be there. -/
def require (multi : MultiStore group) (metric : MetricKey) : Except Error (Store group) :=
  match multi.get? metric with
  | some store => pure store
  | none => throw (.noMatchingData ("no output for metric " ++ metric.text))

def metrics (multi : MultiStore group) : List MetricKey := multi.stores.keys

def keys (multi : MultiStore group) : List CellKey :=
  sortedDistinct (multi.stores.values.flatMap Store.keys)

def windows (multi : MultiStore group) : List TimeWindow :=
  sortedDistinct (multi.stores.values.flatMap Store.windows)

def thresholds (multi : MultiStore group) : List Threshold :=
  sortedDistinct (multi.stores.values.flatMap Store.thresholds)

/-- Numeric equality of the stores of the same metrics. -/
def same (left right : MultiStore group) : Bool :=
  left.metrics == right.metrics
    && (left.stores.values.zip right.stores.values).all fun pair => pair.1.same pair.2

end MultiStore

/-- Numeric equality of the outputs of two cells. -/
def CellOutputs.same {group : OutputGroup} (left right : CellOutputs group) : Bool :=
  left.keys == right.keys
    && (left.values.zip right.values).all fun pair => pair.1.same pair.2

end Forecast
