import Forecast.Collection.Bisection
import Forecast.Sample.Climatology

/-!
# Storage of issuances

An issuance is the run of events of one forecast, issued at its basis time.  A storage holds the
events of many issuances in one buffer, with a table of spans and the range of spans that are
visible.  Narrowing the range shares the buffer.  `issuances` is the view through which operations
are described: storing issuances and viewing them gives them back (`issuances_ofIssuances`).
-/

namespace Forecast

/-- The events of one forecast. -/
structure Issuance (α : Type) where
  /-- Time of issue. -/
  basis : Instant
  /-- Events by ascending valid time. -/
  events : List (Event α)
deriving DecidableEq, Inhabited

namespace Issuance

variable {α : Type}

/-- Lead of an event over the time of issue. -/
def leadOf (issuance : Issuance α) (event : Event α) : Duration :=
  Instant.lead issuance.basis event.time

/-- Leads of all events. -/
def leads (issuance : Issuance α) : List Duration := issuance.events.map issuance.leadOf

/-- The event at a lead. -/
def eventAt? (issuance : Issuance α) (lead : Duration) : Option (Event α) :=
  bisect (fun event => compare (issuance.leadOf event) lead) issuance.events

/-- Issuances with changed events, those left without events dropped. -/
def changed {β : Type} (change : Issuance α → List (Event β)) (issuances : List (Issuance α)) :
    List (Issuance β) :=
  (issuances.map fun issuance => ⟨issuance.basis, change issuance⟩).filter
    fun issuance => !issuance.events.isEmpty

/-- Numeric equality at the same time of issue. -/
def same [Sample α] (left right : Issuance α) : Bool :=
  left.basis == right.basis && left.events.length == right.events.length
    && (left.events.zip right.events).all fun pair => pair.1.same pair.2

/-- Numeric equality of two lists, issuance by issuance. -/
def sameAll [Sample α] (left right : List (Issuance α)) : Bool :=
  left.length == right.length && (left.zip right).all fun pair => pair.1.same pair.2

end Issuance

/-- Where the events of one issuance lie. -/
structure Span where
  /-- Time of issue. -/
  basis : Instant
  /-- Position of the first event. -/
  start : Nat
  /-- Number of events. -/
  length : Nat
deriving DecidableEq, Inhabited

/-- Events in one buffer with the spans of their issuances. -/
structure Storage (α : Type) where
  events : List (Event α)
  spans : List Span
  /-- Position of the first visible span. -/
  first : Nat
  /-- Number of visible spans. -/
  count : Nat
deriving DecidableEq, Inhabited

namespace Storage

variable {α β : Type}

/-- Spans of issuances laid end to end from a position on. -/
def spansFrom (start : Nat) : List (Issuance α) → List Span
  | [] => []
  | issuance :: rest =>
      ⟨issuance.basis, start, issuance.events.length⟩
        :: spansFrom (start + issuance.events.length) rest

/-- Store issuances in order, all of them visible. -/
def ofIssuances (issuances : List (Issuance α)) : Storage α :=
  { events := issuances.flatMap Issuance.events
    spans := spansFrom 0 issuances
    first := 0
    count := issuances.length }

def visible (storage : Storage α) : List Span :=
  (storage.spans.drop storage.first).take storage.count

/-- The issuance of a span. -/
def read (storage : Storage α) (span : Span) : Issuance α :=
  ⟨span.basis, (storage.events.drop span.start).take span.length⟩

def issuances (storage : Storage α) : List (Issuance α) := storage.visible.map storage.read

/-- The visible issuance at a position. -/
def issuance? (storage : Storage α) (index : Nat) : Option (Issuance α) :=
  storage.visible[index]?.map storage.read

/-- The events from the first visible span to the end of the last. -/
def visibleEvents (storage : Storage α) : List (Event α) :=
  match storage.visible.head?, storage.visible.getLast? with
  | some first, some last =>
      (storage.events.drop first.start).take (last.start + last.length - first.start)
  | _, _ => []

/-- The same buffer with only one of the visible spans. -/
def narrow (storage : Storage α) (index : Nat) : Storage α :=
  { storage with first := storage.first + index, count := 1 }

/-- Position of the first visible issuance with a time of issue. -/
def position? (storage : Storage α) (basis : Instant) : Option Nat :=
  storage.visible.findIdx? fun span => span.basis == basis

/-- Change the events of every visible issuance and store those that keep any. -/
def rebuild (change : Issuance α → List (Event β)) (storage : Storage α) : Option (Storage β) :=
  match Issuance.changed change storage.issuances with
  | [] => none
  | issuances => some (ofIssuances issuances)

@[simp]
theorem length_spansFrom (start : Nat) (issuances : List (Issuance α)) :
    (spansFrom start issuances).length = issuances.length := by
  induction issuances generalizing start with
  | nil => rfl
  | cons issuance rest ih => simp [spansFrom, ih]

theorem visible_ofIssuances (issuances : List (Issuance α)) :
    (ofIssuances issuances).visible = spansFrom 0 issuances := by
  simp [visible, ofIssuances, List.take_of_length_le]

/-- Spans laid out behind some events read back the issuances that follow those events. -/
theorem map_read_spansFrom (storage : Storage α) (before : List (Event α))
    (issuances : List (Issuance α))
    (events : storage.events = before ++ issuances.flatMap Issuance.events) :
    (spansFrom before.length issuances).map storage.read = issuances := by
  induction issuances generalizing before with
  | nil => rfl
  | cons issuance rest ih =>
    have later := ih (before ++ issuance.events) (by simpa using events)
    simp only [spansFrom, List.map_cons, List.length_append] at later ⊢
    rw [later]
    simp [read, events]

/-- Issuances are read back as they were stored. -/
@[simp]
theorem issuances_ofIssuances (issuances : List (Issuance α)) :
    (ofIssuances issuances).issuances = issuances := by
  rw [Storage.issuances, visible_ofIssuances]
  exact map_read_spansFrom _ [] _ (by simp [ofIssuances])

/-- Narrowing leaves one of the visible spans. -/
theorem visible_narrow (storage : Storage α) {index : Nat} (within : index < storage.count) :
    (storage.narrow index).visible = (storage.visible.drop index).take 1 := by
  simp only [Storage.visible, narrow, List.drop_take, List.take_take, List.drop_drop]
  rw [Nat.min_eq_left (by omega)]

/-- Narrowing shows one of the visible issuances. -/
theorem issuances_narrow (storage : Storage α) {index : Nat} (within : index < storage.count) :
    (storage.narrow index).issuances = (storage.issuances.drop index).take 1 := by
  simp only [issuances, visible_narrow storage within, List.map_take, List.map_drop]
  rfl

end Storage

end Forecast
