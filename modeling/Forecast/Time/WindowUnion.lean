import Forecast.Error

/-!
# Building and joining windows

A window is accepted when no latest bound lies before its earliest bound.  The union of windows is
their join, which starts from the first.
-/

namespace Forecast.TimeWindow

/-- Accept a window with ordered bounds. -/
def checked (window : TimeWindow) : Except DataError TimeWindow :=
  if window.latestReference < window.earliestReference then
    throw (.invalidTimeWindow .reference)
  else if window.latestValid < window.earliestValid then
    throw (.invalidTimeWindow .valid)
  else if window.latestLead < window.earliestLead then
    throw (.invalidTimeWindow .lead)
  else pure window

/-- The window of all times between two leads. -/
def ofLeads (earliest latest : Duration) : Except DataError TimeWindow :=
  checked { unbounded with earliestLead := earliest, latestLead := latest }

/-- The window between two reference times at lead zero. -/
def ofReferenceTimes (earliest latest : Instant) : Except DataError TimeWindow :=
  checked { unbounded with earliestReference := earliest, latestReference := latest }

/-- The window between two reference times and between two leads. -/
def ofReferenceTimesAndLeads (earliest latest : Instant) (earliestLead latestLead : Duration) :
    Except DataError TimeWindow :=
  checked
    { unbounded with
      earliestReference := earliest
      latestReference := latest
      earliestLead
      latestLead }

/-- The smallest window that covers all windows. -/
def union : List TimeWindow → Except DataError TimeWindow
  | [] => throw (.empty .windows)
  | first :: rest => pure (rest.foldl join first)

end Forecast.TimeWindow
