import Forecast.Time.WindowUnion

/-!
# Joining metadata

Metadata of one unit and dataset can be joined: the windows that are present are joined and
thresholds are dropped.  Where a series is given metadata several times, equal ones stay as they
are and different ones are joined.
-/

namespace Forecast.SampleMetadata

/-- The union of the windows that are present among metadata. -/
def joinedWindow (windows : List TimeWindow) : Option TimeWindow :=
  (TimeWindow.union windows).toOption

/-- The first metadata that does not share the source of another. -/
def foreign? (first : SampleMetadata) (rest : List SampleMetadata) : Option SampleMetadata :=
  rest.find? fun next => !next.sameSource first

/-- The union of metadata of one source. -/
def union : List SampleMetadata → Except DataError SampleMetadata
  | [] => throw (.empty .metadata)
  | first :: rest =>
      match foreign? first rest with
      | some found => throw (.metadataMismatch (.source first found))
      | none =>
          pure
            { unit := first.unit
              identifier := first.identifier
              window := joinedWindow ((first :: rest).filterMap SampleMetadata.window)
              threshold := none }

/-- The metadata that several contributions amount to, if there are any. -/
def resolve : List SampleMetadata → Except DataError (Option SampleMetadata)
  | [] => pure none
  | first :: rest =>
      if rest.all (· == first) then pure (some first)
      else some <$> union (first :: rest)

end Forecast.SampleMetadata
