import Forecast.Output.Shape
import Forecast.Time.WindowUnion

/-!
# Stores of outputs

A store files the outputs of one metric by cell.  All of them are minimally equal to the metadata of
the store.  A builder takes outputs in any order; the first one put sets the reference that all
others, and metadata given for the store, are compared with.
-/

namespace Forecast

/-- Outputs of one metric by cell. -/
structure Store (group : OutputGroup) where
  /-- Outputs in the order of their cells. -/
  entries : SortedMap CellKey (Output group)
  /-- Metadata of the store. -/
  metadata : OutputMetadata

/-- What has been put into a store to be built. -/
structure StoreBuilder (group : OutputGroup) where
  /-- Outputs by cell. -/
  entries : SortedMap CellKey (Output group) := SortedMap.empty
  /-- Metadata of the output put first. -/
  reference : Option OutputMetadata := none
  /-- Metadata given for the store. -/
  metadata : Option OutputMetadata := none

namespace StoreBuilder

variable {group : OutputGroup}

/-- Put an output at a cell, in place of any output there. -/
def put (builder : StoreBuilder group) (key : CellKey) (output : Output group) :
    StoreBuilder group :=
  { builder with
    entries := builder.entries.insert key output
    reference := builder.reference.or (some output.metadata) }

/-- Give the metadata of the store. -/
def withMetadata (builder : StoreBuilder group) (metadata : OutputMetadata) :
    StoreBuilder group :=
  { builder with metadata := some metadata }

/-- Put outputs in order. -/
def putAll (builder : StoreBuilder group) (entries : List (CellKey × Output group)) :
    StoreBuilder group :=
  entries.foldl (fun builder entry => builder.put entry.1 entry.2) builder

/-- The first entry whose metadata is not minimally equal to the reference. -/
def foreign? (reference : OutputMetadata) (entries : SortedMap CellKey (Output group)) :
    Option (CellKey × Output group) :=
  entries.entries.find? fun entry => !entry.2.metadata.minimallyEqual reference

/-- Check the outputs and the metadata given, naming the fault in the data otherwise. -/
def assemble (builder : StoreBuilder group) : Except DataError (Store group) :=
  match builder.reference with
  | none => throw (.empty .entries)
  | some reference =>
      match foreign? reference builder.entries with
      | some (key, output) =>
          throw (.metadataMismatch (.entry key output.metadata reference))
      | none =>
          match builder.metadata with
          | none => pure ⟨builder.entries, reference⟩
          | some metadata =>
              if metadata.minimallyEqual reference then pure ⟨builder.entries, metadata⟩
              else throw (.metadataMismatch (.replacement metadata reference))

def build (builder : StoreBuilder group) : Except Error (Store group) :=
  builder.assemble.mapError .invalidInput

end StoreBuilder

namespace Store

variable {group : OutputGroup}

/-- Metadata of stores that are combined: those of the first, with the windows of all joined. -/
def combinedMetadata (first : Store group) (rest : List (Store group)) : OutputMetadata :=
  match TimeWindow.union ((first :: rest).filterMap fun store => store.metadata.window) with
  | .ok window => { first.metadata with window := some window }
  | .error _ => first.metadata

/-- Combine stores into one.  Where several have an output at a cell, the last one counts. -/
def combine : List (Store group) → Except Error (Store group)
  | [] => throw (.invalidInput (.empty .stores))
  | first :: rest =>
      let builder : StoreBuilder group := { metadata := some (combinedMetadata first rest) }
      (builder.putAll ((first :: rest).flatMap fun store => store.entries.entries)).build

/-- The entries at the cells that are kept, if there are any.  A store kept whole is given back. -/
def restrict? (keep : CellKey → Bool) (store : Store group) : Option (Store group) :=
  let kept := store.entries.filter fun key _ => keep key
  if kept.isEmpty then none
  else if kept.size = store.entries.size then some store
  else some ⟨kept, store.metadata⟩

/-- The entries at one window. -/
def sliceByWindow? (store : Store group) (window : TimeWindow) : Option (Store group) :=
  store.restrict? fun key => key.window == window

/-- The entries at one threshold. -/
def sliceByThreshold? (store : Store group) (threshold : Threshold) : Option (Store group) :=
  store.restrict? fun key => key.threshold == threshold

/-- The entries at windows with the same leads. -/
def sliceByLead? (store : Store group) (window : TimeWindow) : Option (Store group) :=
  store.restrict? fun key => key.window.sameLeads window

/-- The output at a cell. -/
def get? (store : Store group) (key : CellKey) : Option (Output group) := store.entries.get? key

/-- The output at a cell, which must be there. -/
def value (store : Store group) (key : CellKey) : Except Error (Output group) :=
  match store.get? key with
  | some output => pure output
  | none => throw (.noMatchingData ("no output at " ++ key.text))

def keys (store : Store group) : List CellKey := store.entries.keys

def windows (store : Store group) : List TimeWindow :=
  sortedDistinct (store.keys.map CellKey.window)

def thresholds (store : Store group) : List Threshold :=
  sortedDistinct (store.keys.map CellKey.threshold)

/-- Distinct bounds of leads, as windows of all times, in order. -/
def leadWindows (store : Store group) : List TimeWindow :=
  sortedDistinct (store.keys.map fun key => key.window.leadBounds)

/-- Whether a cell has a quantile for its threshold. -/
def hasQuantiles (store : Store group) : Bool :=
  store.keys.any fun key => key.threshold.isQuantile

/-- Numeric equality of the outputs at the same cells, with the same metadata. -/
def same (left right : Store group) : Bool :=
  left.keys == right.keys
    && ((left.entries.values.zip right.entries.values).all fun pair => pair.1.same pair.2)
    && left.metadata == right.metadata

end Store

end Forecast
