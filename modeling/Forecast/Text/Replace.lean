/-!
# Replacing text

Every occurrence of a pattern, found from left to right and without overlaps, gives way to a
replacement.
-/

namespace Forecast

/-- Replace every occurrence of a pattern that is not empty. -/
def replaceAll (pattern replacement : List Char) : List Char → List Char
  | [] => []
  | char :: rest =>
      if pattern.isPrefixOf (char :: rest) then
        replacement ++ replaceAll pattern replacement (rest.drop (pattern.length - 1))
      else
        char :: replaceAll pattern replacement rest
termination_by chars => chars.length
decreasing_by
  all_goals simp only [List.length_drop, List.length_cons]
  all_goals omega

end Forecast
