import Forecast.Output.MultiStore

/-!
# Resolution of cells

Once every result of the cells of a shape has settled, the results are joined: cell by cell in the
order of their keys, and within a cell in the order of registration.  The first result that is no
output decides the error; otherwise a later output replaces an earlier one of the same metric.
-/

namespace Forecast

/-- What a computation of a cell reports: outputs, or a message. -/
abbrev CellResult (group : OutputGroup) := Except String (CellOutputs group)

/-- What became of the result of a cell. -/
inductive Settlement (group : OutputGroup) where
  | outputs (cell : CellOutputs group)
  | failed (failure : Failure)
  | interrupted (interruption : Interruption)

namespace Settlement

variable {group : OutputGroup}

/-- A reported result is settled. -/
def ofResult : CellResult group → Settlement group
  | .ok cell => outputs cell
  | .error message => failed (.reported message)

/-- The outputs of a settled result at a cell, or the error that it stands for. -/
def outputsAt (key : CellKey) : Settlement group → Except AggregationError (CellOutputs group)
  | outputs cell => .ok cell
  | failed failure => .error (.cellFailed group key failure)
  | interrupted interruption => .error (.interrupted group key interruption)

end Settlement

/-- What all cells of a shape come to: a multi-store, or nothing where there is no output. -/
abbrev Resolution (group : OutputGroup) := Except AggregationError (Option (MultiStore group))

/-- The settled results of every cell, in the order of registration. -/
abbrev SettledCells (group : OutputGroup) := SortedMap CellKey (List (Settlement group))

namespace SettledCells

variable {group : OutputGroup}

/-- Merge the results of one cell behind outputs that it has already. -/
def mergeInto (key : CellKey) (merged : CellOutputs group) :
    List (Settlement group) → Except AggregationError (CellOutputs group)
  | [] => .ok merged
  | settlement :: rest =>
      match settlement.outputsAt key with
      | .error cause => .error cause
      | .ok cell => mergeInto key (merged.merge cell) rest

/-- Merge the results of every cell. -/
def mergeCells (settled : SettledCells group) :
    Except AggregationError (SortedMap CellKey (CellOutputs group)) :=
  settled.traverse fun key settlements => mergeInto key SortedMap.empty settlements

/-- Put the outputs of all cells together. -/
def store (cells : SortedMap CellKey (CellOutputs group)) : Except DataError (MultiStore group) :=
  let builder : MultiStoreBuilder group :=
    cells.entries.foldl (fun builder cell => builder.add cell.1 cell.2) {}
  builder.assemble

/-- What settled cells come to. -/
def resolve (settled : SettledCells group) : Resolution group :=
  match mergeCells settled with
  | .error cause => .error cause
  | .ok cells =>
      if cells.values.all fun cell => cell.isEmpty then .ok none
      else
        match store cells with
        | .ok store => .ok (some store)
        | .error cause => .error (.inconsistent group cause)

end SettledCells

end Forecast
