import Forecast.Error

/-!
# Values of samples

An event is a value at a valid time.  The values are plain numbers, pairs of an observation with
one prediction, or pairs of an observation with an ensemble of predictions.  `Sample.same` is
numeric equality, under which a NaN differs from itself; equality of the types compares patterns.
-/

namespace Forecast

/-- A value at a valid time. -/
structure Event (α : Type) where
  time : Instant
  value : α
deriving DecidableEq, Inhabited

/-- Change the value of an event. -/
def Event.map {α β : Type} (change : α → β) (event : Event α) : Event β :=
  ⟨event.time, change event.value⟩

/-- An observation with one prediction. -/
structure SinglePair where
  left : Binary64
  right : Binary64
deriving DecidableEq, Inhabited

/-- An observation with an ensemble of predictions. -/
structure EnsemblePair where
  left : Binary64
  /-- Predictions, by member. -/
  members : List Binary64
deriving DecidableEq, Inhabited

namespace EnsemblePair

/-- Pair an observation with an ensemble, which must have members. -/
def build (left : Binary64) (members : List Binary64) : Except DataError EnsemblePair :=
  if members.isEmpty then throw .emptyEnsemble else pure ⟨left, members⟩

def width (pair : EnsemblePair) : Nat := pair.members.length

/-- The observation with the prediction of one member. -/
def trace? (pair : EnsemblePair) (index : Nat) : Option SinglePair :=
  pair.members[index]?.map fun member => ⟨pair.left, member⟩

/-- The items whose index, counted from `start`, is kept. -/
def keepIndices {α : Type} (keep : Nat → Bool) (start : Nat) : List α → List α
  | [] => []
  | item :: rest =>
      if keep start then item :: keepIndices keep (start + 1) rest
      else keepIndices keep (start + 1) rest

/-- The ensemble of the members that are kept, if there are any. -/
def select? (pair : EnsemblePair) (keep : Nat → Bool) : Option EnsemblePair :=
  match keepIndices keep 0 pair.members with
  | [] => none
  | members => some ⟨pair.left, members⟩

end EnsemblePair

/-- What a series needs to know of its values. -/
class Sample (α : Type) where
  /-- Number of ensemble members, where there is an ensemble. -/
  memberCount : α → Option Nat
  same : α → α → Bool
  /-- Text of a value. -/
  text : α → String

instance : Sample Binary64 where
  memberCount _ := none
  same := Binary64.same
  text := Binary64.text

instance : Sample SinglePair where
  memberCount _ := none
  same left right := left.left.same right.left && left.right.same right.right
  text pair := pair.left.text ++ "," ++ pair.right.text

instance : Sample EnsemblePair where
  memberCount pair := some pair.width
  same left right := left.left.same right.left && Binary64.sameAll left.members right.members
  text pair := ",".intercalate ((pair.left :: pair.members).map Binary64.text)

namespace Event

variable {α : Type} [Sample α]

/-- Numeric equality at the same time. -/
def same (left right : Event α) : Bool :=
  left.time == right.time && Sample.same left.value right.value

/-- Valid time and value with a comma. -/
def text (event : Event α) : String := event.time.rfc3339 ++ "," ++ Sample.text event.value

end Event

end Forecast
