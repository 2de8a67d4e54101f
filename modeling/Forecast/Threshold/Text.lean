import Forecast.Binary64.Text
import Forecast.Text.Replace
import Forecast.Threshold.Basic

/-!
# Text of thresholds

The text of a threshold shows its condition and bounds, a probability after `Pr`.  Its name for
files is the same text with comparison signs spelled out, blanks joined and brackets left out.
-/

namespace Forecast.Threshold

/-- The bounds with their conditions. -/
def boundsText (threshold : Threshold) : String :=
  let symbol := threshold.operator.symbol
  match threshold.values, threshold.probabilities with
  | some values, some probabilities =>
      match values.upper, probabilities.upper with
      | some upperValue, some upperProbability =>
          ">= " ++ values.lower.text ++ " [Pr = " ++ probabilities.lower.text ++ "] && < "
            ++ upperValue.text ++ " [Pr = " ++ upperProbability.text ++ "]"
      | _, _ =>
          symbol ++ " " ++ values.lower.text ++ " [Pr = " ++ probabilities.lower.text ++ "]"
  | some values, none =>
      match values.upper with
      | some upper => ">= " ++ values.lower.text ++ " && < " ++ upper.text
      | none => symbol ++ " " ++ values.lower.text
  | none, some probabilities =>
      match probabilities.upper with
      | some upper => "Pr >= " ++ probabilities.lower.text ++ " && < " ++ upper.text
      | none => "Pr " ++ symbol ++ " " ++ probabilities.lower.text
  | none, none => symbol

/-- Text of a threshold, with its label in parentheses. -/
def text (threshold : Threshold) : String :=
  if threshold.isAllData then "All data"
  else
    match threshold.label with
    | some label => threshold.boundsText ++ " (" ++ label ++ ")"
    | none => threshold.boundsText

/-- Spellings of the signs that a file name cannot hold, in the order in which they are applied. -/
def fileNameSpellings : List (List Char × List Char) :=
  [(['>', '='], ['G', 'T', 'E']), (['<', '='], ['L', 'T', 'E']), (['>'], ['G', 'T']),
    (['<'], ['L', 'T']), (['P', 'r', ' ', '=', ' '], ['P', 'r', '=']),
    (['P', 'r', ' '], ['P', 'r', '_']), ([' '], ['_'])]

/-- Whether a character is a bracket or a parenthesis. -/
def isBracket (char : Char) : Bool := ['[', ']', '(', ')'].contains char

/-- The text as part of a file name. -/
def fileName (threshold : Threshold) : String :=
  let spelled :=
    fileNameSpellings.foldl (fun chars spelling => replaceAll spelling.1 spelling.2 chars)
      threshold.text.toList
  String.ofList (spelled.filter fun char => !isBracket char)

end Forecast.Threshold
