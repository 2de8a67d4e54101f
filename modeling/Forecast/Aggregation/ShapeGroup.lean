import Forecast.Collectors
import Forecast.Aggregation.Resolution

/-!
# Cells of one shape

Cells are registered with results that may arrive later.  A task or a channel is known by its
ticket, the number of producers before it; its result settles once.  The first resolution drains the
registered cells into a join, which finishes when it is polled with every result settled.  A poll
that comes too early leaves the join in place, and a finished outcome is kept for every later poll.
-/

namespace Forecast

/-- Number of a task or channel among those of its shape. -/
abbrev Ticket := Nat

/-- A registered result that may not be there yet. -/
inductive PendingCell (group : OutputGroup) where
  | ready (result : CellResult group)
  | task (ticket : Ticket)
  /-- A producer sends it through a channel. -/
  | channel (ticket : Ticket)

/-- How the result arrives. -/
def PendingCell.kind {group : OutputGroup} : PendingCell group → RegistrationKind
  | ready _ => .ready
  | task _ => .task
  | channel _ => .channel

/-- Registered results by cell, in the order of registration. -/
abbrev PendingCells (group : OutputGroup) := SortedMap CellKey (List (PendingCell group))

/-- A resolution that has started. -/
inductive Join (group : OutputGroup) where
  /-- Results of these cells are awaited. -/
  | waiting (cells : PendingCells group)
  /-- It came to an outcome. -/
  | finished (outcome : Resolution group)

/-- The cells of one shape. -/
structure ShapeGroup (group : OutputGroup) where
  /-- Cells that no resolution has drained. -/
  pending : PendingCells group := SortedMap.empty
  /-- What became of every task and channel, by ticket; nothing while it runs. -/
  producers : List (Option (Settlement group)) := []
  /-- How the computations of tasks will end once they are run. -/
  scheduled : List (Ticket × Settlement group) := []
  /-- Number of registered results. -/
  cells : Nat := 0
  /-- Number of results counted as pending and not released. -/
  gauged : Nat := 0
  /-- The resolution, once it has started. -/
  join : Option (Join group) := none

namespace ShapeGroup

variable {group : OutputGroup}

/-- Append a result to those of its cell. -/
def append (key : CellKey) (cell : PendingCell group) (cells : PendingCells group) :
    PendingCells group :=
  cells.insert key ((cells.get? key).getD [] ++ [cell])

/-- Register a result under its cell. -/
def register (shape : ShapeGroup group) (collect : Bool) (key : CellKey)
    (cell : PendingCell group) : ShapeGroup group × List Measurement :=
  ({ shape with
      pending := append key cell shape.pending
      cells := shape.cells + 1
      gauged := shape.gauged + if collect then 1 else 0 },
    if collect then [.registered group cell.kind] else [])

/-- Start a task or open a channel. -/
def enlist (shape : ShapeGroup group) : Ticket × ShapeGroup group :=
  (shape.producers.length, { shape with producers := shape.producers ++ [none] })

/-- Settle the result of a task or channel.  It settles once; later attempts change nothing. -/
def settle (shape : ShapeGroup group) (ticket : Ticket) (settlement : Settlement group) :
    ShapeGroup group :=
  match shape.producers[ticket]? with
  | some none => { shape with producers := shape.producers.set ticket (some settlement) }
  | _ => shape

/-- Run every scheduled computation to its end. -/
def run (shape : ShapeGroup group) : ShapeGroup group :=
  shape.scheduled.foldl (fun shape task => shape.settle task.1 task.2)
    { shape with scheduled := [] }

/-- Whether a task or channel has not settled. -/
def isOpen (shape : ShapeGroup group) (ticket : Ticket) : Bool :=
  match shape.producers[ticket]? with
  | some none => true
  | _ => false

/-- The settled result of a cell, if it is there. -/
def settlement? (producers : List (Option (Settlement group))) :
    PendingCell group → Option (Settlement group)
  | .ready result => some (.ofResult result)
  | .task ticket | .channel ticket => producers[ticket]?.join

/-- The settled results of all cells, if every one is there. -/
def settled? (producers : List (Option (Settlement group))) (cells : PendingCells group) :
    Option (SettledCells group) :=
  cells.traverse fun _ pending => pending.mapM (settlement? producers)

/-- Poll a join over drained cells. -/
def poll (shape : ShapeGroup group) (collect : Bool) (cells : PendingCells group) :
    ShapeGroup group × Option (Resolution group) × List Measurement :=
  match settled? shape.producers cells with
  | none => ({ shape with join := some (.waiting cells) }, none, [])
  | some settled =>
      let outcome := settled.resolve
      ({ shape with gauged := 0, join := some (.finished outcome) }, some outcome,
        (if collect then [.resolved group outcome.isOk] else []) ++ [.released shape.gauged])

/-- Ask for the outcome.  The first call drains the cells; a call before every result has settled
has no answer yet. -/
def resolve (shape : ShapeGroup group) (collect : Bool) :
    ShapeGroup group × Option (Resolution group) × List Measurement :=
  match shape.join with
  | some (.finished outcome) => (shape, some outcome, [])
  | some (.waiting cells) => shape.poll collect cells
  | none => { shape with pending := SortedMap.empty }.poll collect shape.pending

/-- Give the cells up. -/
def release (shape : ShapeGroup group) : List Measurement := [.released shape.gauged]

/-- Number of registered results, of cells not drained, and whether a resolution has started. -/
def text (shape : ShapeGroup group) : String :=
  "ShapeGroup \x7b cells: " ++ Digits.text shape.cells ++ ", keys: "
    ++ Digits.text shape.pending.size ++ ", resolving: "
    ++ (if shape.join.isSome then "true" else "false") ++ " \x7d"

end ShapeGroup

end Forecast
