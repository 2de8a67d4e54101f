import Forecast.Settings.Basic
import Forecast.Pattern.Reader

/-!
# Fields of log filters

A directive of a log filter may name fields, and for each a value.  A value is read as the first of
these that it can be: a truth value, a whole number of 64 bits, a number, a pattern.
-/

namespace Forecast

/-- What the value of a field is compared with. -/
inductive LogValue where
  | truth (value : Bool)
  | number (value : Binary64)
  | notNumber
  /-- A whole number that is not negative. -/
  | natural (value : Nat)
  /-- A whole number with a minus sign. -/
  | negative (value : Int)
  | pattern (text : String)

namespace LogValue

/-- A whole number of 64 bits behind a minus sign. -/
def negative? (text : String) : Option Int :=
  match text.toList with
  | '-' :: digits =>
      let value := -(Digits.valueOf digits : Int)
      if digits ≠ [] ∧ digits.all Digits.isDigit ∧ Int64.minValue.toInt ≤ value then
        some value
      else none
  | _ => none

def ofText? (text : String) : Option LogValue :=
  let read : List (Option LogValue) :=
    [(Settings.truthOfText? text).map truth,
      (Settings.wordOfText? text).map natural,
      (negative? text).map negative,
      (Binary64.ofText? text).map fun value => if value.isNaN then notNumber else number value,
      if Pattern.isWellFormed text then some (pattern text) else none]
  read.findSome? id

/-- Text of a value. -/
def text : LogValue → String
  | truth value => Settings.truthText value
  | number value => value.text
  | notNumber => Binary64.nan.text
  | natural value => Digits.text value
  | negative value => Digits.signedText value
  | pattern text => text

/-- Place of the kind of a value among the others. -/
def rank : LogValue → Nat
  | truth _ => 0
  | number _ => 1
  | notNumber => 2
  | natural _ => 3
  | negative _ => 4
  | pattern _ => 5

/-- Order by kind first; both zeros are the same number. -/
def compare : LogValue → LogValue → Ordering
  | truth left, truth right => Ord.compare left right
  | number left, number right => Ord.compare left.position right.position
  | natural left, natural right => Ord.compare left right
  | negative left, negative right => Ord.compare left right
  | pattern left, pattern right => Ord.compare left right
  | left, right => Ord.compare left.rank right.rank

instance : Ord LogValue := ⟨compare⟩

/-- Place of a value among the numbers of its kind. -/
def place : LogValue → Int
  | truth value => value.toNat
  | number value => value.position
  | natural value => value
  | negative value => value
  | notNumber | pattern _ => 0

/-- The text of a pattern. -/
def word : LogValue → String
  | pattern text => text
  | _ => ""

theorem compare_eq (left right : LogValue) :
    compare left right = (Ord.compare left.rank right.rank).then
      ((Ord.compare left.place right.place).then (Ord.compare left.word right.word)) := by
  cases left with
  | truth left =>
    cases right <;> try rfl
    rename_i right
    cases left <;> cases right <;> rfl
  | number left => cases right <;> first | rfl | simp [compare, rank, place, word]
  | notNumber => cases right <;> first | rfl | simp [compare, rank, place, word]
  | natural left =>
    cases right <;> try rfl
    rename_i right
    have cast : Ord.compare left right = Ord.compare (left : Int) right := by
      change compareOfLessAndEq left right = compareOfLessAndEq (left : Int) right
      simp only [compareOfLessAndEq, Int.ofNat_lt, Int.natCast_inj]
    simp [compare, rank, place, word, cast]
  | negative left => cases right <;> first | rfl | simp [compare, rank, place, word]
  | pattern left => cases right <;> first | rfl | simp [compare, rank, place, word]

instance : Std.TransOrd LogValue := by
  have lexicographic : (Ord.compare : LogValue → LogValue → Ordering)
      = compareLex (compareOn rank) (compareLex (compareOn place) (compareOn word)) := by
    funext left right
    exact compare_eq left right
  rw [Std.TransOrd, lexicographic]
  infer_instance

end LogValue

/-- A field, and its value where one is asked for. -/
structure LogField where
  /-- Name of the field. -/
  name : String
  /-- What its value is compared with. -/
  value : Option LogValue

namespace LogField

/-- Read a name, and a value behind an equals sign.  What follows a second sign is ignored. -/
def ofText? (text : String) : Option LogField :=
  let chars := text.toList
  let name := chars.takeWhile (· != '=')
  match chars.drop name.length with
  | [] => some ⟨String.ofList name, none⟩
  | _ :: value =>
      (LogValue.ofText? (String.ofList (value.takeWhile (· != '=')))).map fun value =>
        ⟨String.ofList name, some value⟩

/-- The name, and the value behind an equals sign. -/
def text (field : LogField) : String :=
  match field.value with
  | none => field.name
  | some value => field.name ++ "=" ++ value.text

/-- Fields without a value come first, then names and values decide. -/
def compare (left right : LogField) : Ordering :=
  (Ord.compare left.value.isSome right.value.isSome).then <|
    (Ord.compare left.name right.name).then (Ord.compare left.value right.value)

instance : Ord LogField := ⟨compare⟩

instance : Std.TransOrd LogField :=
  inferInstanceAs (Std.TransCmp (compareLex (compareOn fun field => field.value.isSome)
    (compareLex (compareOn name) (compareOn value))))

end LogField

end Forecast
