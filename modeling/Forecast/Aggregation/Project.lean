import Forecast.Aggregation.ShapeGroup

/-!
# Projects

A project holds the cells of every shape.  Cells are registered while it accumulates, and outcomes
are asked for after it is built.  Every operation gives the new project with the measurements that
it made; a project without collection measures nothing but the release of cells.
-/

namespace Forecast

/-- What a project can do. -/
inductive ProjectPhase where
  | accumulating
  | built
  | dropped
deriving DecidableEq, Inhabited

/-- Where the computation of a cell comes from. -/
inductive CellSource (group : OutputGroup) where
  | ready (result : CellResult group)
  /-- A task will end like this once it runs. -/
  | task (settlement : Settlement group)
  /-- A producer will use a channel. -/
  | channel

/-- The cells of every shape. -/
structure Project where
  /-- Cells by shape. -/
  shapes : (group : OutputGroup) → ShapeGroup group
  /-- Whether registrations and resolutions are measured. -/
  collectMetrics : Bool
  /-- What the project can do. -/
  phase : ProjectPhase

namespace Project

/-- A project without cells. -/
def new (collectMetrics : Bool) : Project :=
  { shapes := fun _ => {}
    collectMetrics
    phase := .accumulating }

/-- Replace the cells of one shape. -/
def setShape (project : Project) (group : OutputGroup) (shape : ShapeGroup group) : Project :=
  { project with
    shapes := fun other => if same : group = other then same ▸ shape else project.shapes other }

/-- Register a cell, with the ticket of its task or channel. -/
def register (project : Project) (group : OutputGroup) (key : CellKey)
    (source : CellSource group) : Option Ticket × Project × List Measurement :=
  let shape := project.shapes group
  let (ticket, cell, shape) :=
    match source with
    | .ready result => (none, PendingCell.ready result, shape)
    | .task settlement =>
        let (ticket, shape) := shape.enlist
        (some ticket, PendingCell.task ticket,
          { shape with scheduled := shape.scheduled ++ [(ticket, settlement)] })
    | .channel =>
        let (ticket, shape) := shape.enlist
        (some ticket, PendingCell.channel ticket, shape)
  let (shape, measurements) := shape.register project.collectMetrics key cell
  (ticket, project.setShape group shape, measurements)

/-- Submit a computation, which needs something that runs it. -/
def submit (project : Project) (hasRuntime : Bool) (group : OutputGroup) (key : CellKey)
    (settlement : Settlement group) : Except Error (Project × List Measurement) :=
  if hasRuntime then .ok (project.register group key (.task settlement)).2
  else .error (.configuration .noRuntime)

/-- Settle a channel, and say whether its receiver was still there. -/
def send (project : Project) (group : OutputGroup) (ticket : Ticket)
    (settlement : Settlement group) : Bool × Project :=
  if project.phase = .dropped then (false, project)
  else
    let shape := project.shapes group
    (shape.isOpen ticket, project.setShape group (shape.settle ticket settlement))

def build (project : Project) : Project :=
  if project.phase = .accumulating then { project with phase := .built } else project

/-- Run every scheduled computation. -/
def run (project : Project) : Project :=
  { project with shapes := fun group => (project.shapes group).run }

/-- Ask for the outcome of one shape. -/
def resolve (project : Project) (group : OutputGroup) :
    Project × Option (Resolution group) × List Measurement :=
  let (shape, outcome, measurements) := (project.shapes group).resolve project.collectMetrics
  (project.setShape group shape, outcome, measurements)

/-- Give the project up, which releases its cells. -/
def drop (project : Project) : Project × List Measurement :=
  if project.phase = .dropped then (project, [])
  else
    ({ project with phase := .dropped },
      OutputGroup.all.flatMap fun group => (project.shapes group).release)

/-- Number of results registered for a shape. -/
def cellCount (project : Project) (group : OutputGroup) : Nat := (project.shapes group).cells

/-- Whether a result is registered for a shape. -/
def hasOutput (project : Project) (group : OutputGroup) : Bool :=
  decide (0 < project.cellCount group)

/-- Shapes with registered results. -/
def outputGroups (project : Project) : List OutputGroup :=
  OutputGroup.all.filter project.hasOutput

/-- Name of a shape in the text of a project. -/
private def fieldName : OutputGroup → String
  | .doubleScore => "double_score"
  | .durationScore => "duration_score"
  | .multiVector => "multi_vector"
  | .matrix => "matrix"
  | .boxPlot => "box_plot"
  | .paired => "paired"

/-- Text of all shapes, and of the choice to collect while the project accumulates. -/
def text (project : Project) : String :=
  let shapes := ", ".intercalate <| OutputGroup.all.map fun group =>
    fieldName group ++ ": " ++ (project.shapes group).text
  let body := "shapes: Shapes \x7b " ++ shapes ++ " \x7d"
  match project.phase with
  | .accumulating =>
      "ProjectOutputBuilder \x7b " ++ body ++ ", collect_metrics: "
        ++ (if project.collectMetrics then "true" else "false") ++ " \x7d"
  | _ => "ProjectOutput \x7b " ++ body ++ " \x7d"

@[simp]
theorem shapes_setShape_same (project : Project) (group : OutputGroup)
    (shape : ShapeGroup group) : (project.setShape group shape).shapes group = shape := by
  simp [setShape]

theorem shapes_setShape_of_ne (project : Project) {group other : OutputGroup}
    (shape : ShapeGroup group) (differs : group ≠ other) :
    (project.setShape group shape).shapes other = project.shapes other := by
  simp [setShape, differs]

end Project

end Forecast
