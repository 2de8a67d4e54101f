import Forecast.Binary64.Basic

/-!
# Thresholds

A threshold is a condition on one number.  Its bounds are real values, climatological
probabilities, or both: a *quantile*, whose value is the one that occurs at the probability.
Conditions are tested on the values, and on the probabilities only where there are no values.
-/

namespace Forecast

/-- The condition of a threshold, in the order in which thresholds are sorted. -/
inductive Operator where
  | less
  | greater
  /-- At or below the bound. -/
  | lessEqual
  /-- At or above the bound. -/
  | greaterEqual
  /-- At the bound, within a tolerance. -/
  | equal
  /-- At or above the lower bound and below the upper one. -/
  | between
deriving DecidableEq, Inhabited

namespace Operator

/-- Rank in the order of declaration. -/
def rank : Operator → Nat
  | less => 0
  | greater => 1
  | lessEqual => 2
  | greaterEqual => 3
  | equal => 4
  | between => 5

instance : Ord Operator := ⟨fun left right => compare left.rank right.rank⟩

def all : List Operator := [less, greater, lessEqual, greaterEqual, equal, between]

def name : Operator → String
  | less => "LESS"
  | greater => "GREATER"
  | lessEqual => "LESS_EQUAL"
  | greaterEqual => "GREATER_EQUAL"
  | equal => "EQUAL"
  | between => "BETWEEN"

/-- The condition with a name. -/
def ofName? (name : String) : Option Operator := all.find? fun item => item.name == name

/-- Symbol of the condition. -/
def symbol : Operator → String
  | less => "<"
  | greater => ">"
  | lessEqual => "<="
  | greaterEqual => ">="
  | equal => "="
  | between => ">= && <"

theorem rank_inj {left right : Operator} (ranks : left.rank = right.rank) : left = right := by
  cases left <;> cases right <;> first | rfl | cases ranks

end Operator

/-- A bound, with the upper one of a condition that has two. -/
structure Bounds where
  /-- Lower or only bound. -/
  lower : Binary64
  upper : Option Binary64
deriving DecidableEq, Inhabited

namespace Bounds

/-- Whether every bound is finite. -/
def isFinite (bounds : Bounds) : Bool :=
  bounds.lower.isFinite && bounds.upper.all Binary64.isFinite

/-- Order by the lower bound, then by the upper one, a missing one first. -/
def compare (left right : Bounds) : Ordering :=
  (left.lower.compareTotal right.lower).then <|
    match left.upper, right.upper with
    | some left, some right => left.compareTotal right
    | left, right => Ord.compare left.isSome right.isSome

instance : Ord Bounds := ⟨compare⟩

end Bounds

/-- A condition on a number. -/
structure Threshold where
  operator : Operator
  /-- Bounds as real values. -/
  values : Option Bounds
  /-- Bounds as probabilities. -/
  probabilities : Option Bounds
  /-- A name for the condition. -/
  label : Option String
deriving DecidableEq, Inhabited

namespace Threshold

/-- The condition that holds of all data: above negative infinity. -/
def allData : Threshold :=
  { operator := .greater
    values := some ⟨Binary64.negativeInfinity, none⟩
    probabilities := none
    label := none }

/-- Lower or only real value. -/
def lowerValue? (threshold : Threshold) : Option Binary64 := threshold.values.map Bounds.lower

def upperValue? (threshold : Threshold) : Option Binary64 := threshold.values.bind Bounds.upper

/-- Lower or only probability. -/
def lowerProbability? (threshold : Threshold) : Option Binary64 :=
  threshold.probabilities.map Bounds.lower

def upperProbability? (threshold : Threshold) : Option Binary64 :=
  threshold.probabilities.bind Bounds.upper

/-- Whether the threshold has both values and probabilities. -/
def isQuantile (threshold : Threshold) : Bool :=
  threshold.values.isSome && threshold.probabilities.isSome

/-- Whether every bound is finite. -/
def isFinite (threshold : Threshold) : Bool :=
  threshold.values.all Bounds.isFinite && threshold.probabilities.all Bounds.isFinite

/-- Whether the threshold counts as the one of all data: above negative infinity, read as a value
or as a probability. -/
def isAllData (threshold : Threshold) : Bool :=
  threshold.operator == .greater
    && (threshold.lowerValue?.any (·.same Binary64.negativeInfinity)
      || threshold.lowerProbability?.any (·.same Binary64.negativeInfinity))

/-- How close a number must be to a bound to equal it. -/
def tolerance : Float := 1e-8

/-- Whether the condition holds of a number. -/
def test (threshold : Threshold) (number : Binary64) : Bool :=
  match threshold.values.or threshold.probabilities with
  | none => false
  | some ⟨lower, upper⟩ =>
      match threshold.operator with
      | .greater => lower.lt number
      | .less => number.lt lower
      | .greaterEqual => lower.le number
      | .lessEqual => number.le lower
      | .between => lower.le number && upper.any fun upper => number.lt upper
      | .equal => Binary64.near tolerance number lower

/-- Order of optional parts that are present in both or absent from both. -/
def comparePresent {α : Type} (order : α → α → Ordering) :
    Option α → Option α → Ordering
  | some left, some right => order left right
  | _, _ => .eq

/-- Order by the condition, then by which parts are present, then by values, probabilities and
label. -/
def compare (left right : Threshold) : Ordering :=
  (Ord.compare left.operator right.operator).then <|
  (Ord.compare left.values.isSome right.values.isSome).then <|
  (Ord.compare left.probabilities.isSome right.probabilities.isSome).then <|
  (Ord.compare left.label.isSome right.label.isSome).then <|
  (comparePresent Bounds.compare left.values right.values).then <|
  (comparePresent Bounds.compare left.probabilities right.probabilities).then <|
  comparePresent Ord.compare left.label right.label

instance : Ord Threshold := ⟨compare⟩

end Threshold

end Forecast
