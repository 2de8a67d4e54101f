import Forecast.Sample.Climatology
import Forecast.Time.Reader

/-!
# Stored records

Values and events are stored as records of named fields.  A record is read back from an object,
whose further fields are ignored, or from a list of exactly its fields in order.  Reading restores
what was stored: it does not repeat the checks that building a value makes, and the values of a
climatology stay in their stored order.
-/

namespace Forecast

/-- A stored document. -/
inductive Record where
  | null
  | bool (value : Bool)
  | number (value : Binary64)
  | text (value : String)
  | list (items : List Record)
  /-- An object with named fields. -/
  | object (fields : List (String × Record))
deriving Inhabited

namespace Record

/-- The fields with the given names, in the order of the names. -/
def fields? (names : List String) : Record → Option (List Record)
  | list items => if items.length = names.length then some items else none
  | object fields => names.mapM fun name => fields.lookup name
  | _ => none

def number? : Record → Option Binary64
  | number value => some value
  | _ => none

/-- A stored list of numbers. -/
def numbers? : Record → Option (List Binary64)
  | list items => items.mapM number?
  | _ => none

def time? : Record → Option Instant
  | text value => Instant.ofText? value
  | _ => none

/-- Store a list of numbers. -/
def ofNumbers (numbers : List Binary64) : Record := list (numbers.map number)

end Record

/-- A type whose values can be stored. -/
class Stored (α : Type) where
  /-- The record of a value. -/
  store : α → Record
  /-- The value of a record. -/
  restore? : Record → Option α

instance : Stored Binary64 where
  store := .number
  restore? := Record.number?

instance : Stored SinglePair where
  store pair := .object [("left", .number pair.left), ("right", .number pair.right)]
  restore? record :=
    match record.fields? ["left", "right"] with
    | some [left, right] => do pure ⟨← left.number?, ← right.number?⟩
    | _ => none

instance : Stored EnsemblePair where
  store pair := .object [("left", .number pair.left), ("members", .ofNumbers pair.members)]
  restore? record :=
    match record.fields? ["left", "members"] with
    | some [left, members] => do pure ⟨← left.number?, ← members.numbers?⟩
    | _ => none

instance : Stored Climatology where
  store climatology := .object [("values", .ofNumbers climatology.values)]
  restore? record :=
    match record.fields? ["values"] with
    | some [values] => do pure ⟨← values.numbers?⟩
    | _ => none

instance {α : Type} [Stored α] : Stored (Event α) where
  store event := .object [("time", .text event.time.zulu), ("value", Stored.store event.value)]
  restore? record :=
    match record.fields? ["time", "value"] with
    | some [time, value] => do pure ⟨← time.time?, ← Stored.restore? value⟩
    | _ => none

end Forecast
