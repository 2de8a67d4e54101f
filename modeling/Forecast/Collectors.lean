import Forecast.Output.Catalogue
import Forecast.Text.Digits

/-!
# Collectors

Steps of a program report measurements; collectors add them up.  All but one collector count
events.  The exception is the gauge of pending cells, which falls when cells are released.
-/

namespace Forecast

/-- How the result of a registered cell arrives. -/
inductive RegistrationKind where
  | ready
  | task
  /-- A producer sends it through a channel. -/
  | channel
deriving DecidableEq, Inhabited

namespace RegistrationKind

def all : List RegistrationKind := [ready, task, channel]

def name : RegistrationKind → String
  | ready => "ready"
  | task => "task"
  | channel => "channel"

end RegistrationKind

/-- Whether a series was built as a regular one. -/
inductive SeriesKind where
  | irregular
  | regular
deriving DecidableEq, Inhabited

def SeriesKind.name : SeriesKind → String
  | irregular => "irregular"
  | regular => "regular"

/-- Something that a step of a program did. -/
inductive Measurement where
  /-- A cell was registered and is pending. -/
  | registered (group : OutputGroup) (kind : RegistrationKind)
  /-- The cells of a shape were resolved. -/
  | resolved (group : OutputGroup) (success : Bool)
  /-- Cells are no longer pending. -/
  | released (cells : Nat)
  | seriesBuilt (kind : SeriesKind)
deriving DecidableEq

/-- What is counted. -/
inductive Collector where
  /-- Cells registered, by shape and kind. -/
  | cellsRegistered (group : OutputGroup) (kind : RegistrationKind)
  | pendingCells
  /-- Resolutions, by shape and success. -/
  | resolutions (group : OutputGroup) (success : Bool)
  /-- Times taken by resolutions, by shape. -/
  | resolutionTimes (group : OutputGroup)
  | seriesBuilt (kind : SeriesKind)
deriving DecidableEq

namespace Collector

def all : List Collector :=
  OutputGroup.all.flatMap (fun group => RegistrationKind.all.map (cellsRegistered group))
    ++ [pendingCells]
    ++ OutputGroup.all.flatMap (fun group => [resolutions group true, resolutions group false])
    ++ OutputGroup.all.map resolutionTimes
    ++ [seriesBuilt .irregular, seriesBuilt .regular]

/-- A name with labels in braces. -/
private def labelled (name : String) (labels : List (String × String)) : String :=
  let label (pair : String × String) : String := pair.1 ++ "=\"" ++ pair.2 ++ "\""
  name ++ "\x7b" ++ ",".intercalate (labels.map label) ++ "\x7d"

/-- Name and labels of a collector. -/
def text : Collector → String
  | cellsRegistered group kind =>
      labelled "hydroverify_cells_registered_total" [("group", group.name), ("kind", kind.name)]
  | pendingCells => "hydroverify_pending_cells"
  | resolutions group success =>
      labelled "hydroverify_resolutions_total"
        [("group", group.name), ("status", if success then "success" else "error")]
  | resolutionTimes group =>
      labelled "hydroverify_resolution_duration_seconds_count" [("group", group.name)]
  | seriesBuilt kind => labelled "hydroverify_series_built_total" [("kind", kind.name)]

/-- How much a measurement adds to a collector. -/
def change (collector : Collector) : Measurement → Int
  | .registered group kind =>
      if collector = cellsRegistered group kind ∨ collector = pendingCells then 1 else 0
  | .resolved group success =>
      if collector = resolutions group success ∨ collector = resolutionTimes group then 1 else 0
  | .released cells => if collector = pendingCells then -cells else 0
  | .seriesBuilt kind => if collector = .seriesBuilt kind then 1 else 0

/-- What a collector shows after measurements, in whatever order they were made. -/
def total (collector : Collector) : List Measurement → Int
  | [] => 0
  | measurement :: rest => collector.change measurement + collector.total rest

/-- The collectors that do not show zero, sorted by their text. -/
def report (measurements : List Measurement) : List (String × Int) :=
  let shown := all.filterMap fun collector =>
    let total := collector.total measurements
    if total = 0 then none else some (collector.text, total)
  shown.mergeSort fun left right => (compare left.1 right.1).isLE

@[simp]
theorem total_append (collector : Collector) (first second : List Measurement) :
    collector.total (first ++ second) = collector.total first + collector.total second := by
  induction first with
  | nil => simp [total]
  | cons measurement rest ih =>
    rw [List.cons_append, total, total, ih]
    omega

end Collector

end Forecast
