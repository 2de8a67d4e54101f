import Forecast.Proofs.Aggregation.Registration

/-!
# One shape over a run

What the cells of a shape have gone through is its history: the results registered and the calls
that asked for the outcome.  A shape fits its history if it has not started to resolve and holds
all registered results, or if a single join holds them all, whoever waits for it, or if the join
has come to the outcome of the settled results and every completed call has that outcome.
-/

namespace Forecast

/-- What has become of a call for the outcome. -/
inductive ResolveCall (group : OutputGroup) where
  | awaiting
  | abandoned
  | completed (outcome : Resolution group)

/-- What the cells of a shape have gone through. -/
structure ShapeHistory (group : OutputGroup) where
  /-- Results registered, in order. -/
  registered : List (CellKey × PendingCell group) := []
  /-- Calls for the outcome, in order. -/
  calls : List (ResolveCall group) := []

namespace ShapeGroup

variable {group : OutputGroup}

/-! ## Results settle once -/

/-- What has settled before has settled alike after. -/
def Keeps (before after : List (Option (Settlement group))) : Prop :=
  ∀ (ticket : Ticket) (settlement : Settlement group),
    before[ticket]?.join = some settlement → after[ticket]?.join = some settlement

theorem Keeps.trans {first second third : List (Option (Settlement group))}
    (keeps : Keeps first second) (later : Keeps second third) : Keeps first third :=
  fun ticket settlement settled => later ticket settlement (keeps ticket settlement settled)

theorem Keeps.settled? {before after : List (Option (Settlement group))}
    (keeps : Keeps before after) {cells : PendingCells group} {settled : SettledCells group}
    (isSettled : settled? before cells = some settled) : settled? after cells = some settled := by
  have still (cell : PendingCell group) (settlement : Settlement group)
      (found : settlement? before cell = some settlement) :
      settlement? after cell = some settlement := by
    cases cell with
    | ready result => exact found
    | task ticket | channel ticket => exact keeps ticket settlement found
  rw [settled?_eq_some_iff] at isSettled ⊢
  exact isSettled.imp fun _ _ ⟨same, settles⟩ => ⟨same, settles.imp still⟩

theorem keeps_settle (shape : ShapeGroup group) (ticket : Ticket) (settlement : Settlement group) :
    Keeps shape.producers (shape.settle ticket settlement).producers := by
  intro other result settled
  rw [settle]
  split
  · rename_i unsettled
    have differs : ticket ≠ other := by
      rintro rfl
      rw [unsettled] at settled
      cases settled
    simpa [List.getElem?_set_ne differs] using settled
  · exact settled

@[simp]
theorem pending_settle (shape : ShapeGroup group) (ticket : Ticket)
    (settlement : Settlement group) : (shape.settle ticket settlement).pending = shape.pending := by
  rw [settle]
  split <;> rfl

@[simp]
theorem join_settle (shape : ShapeGroup group) (ticket : Ticket) (settlement : Settlement group) :
    (shape.settle ticket settlement).join = shape.join := by
  rw [settle]
  split <;> rfl

@[simp]
theorem gauged_settle (shape : ShapeGroup group) (ticket : Ticket) (settlement : Settlement group) :
    (shape.settle ticket settlement).gauged = shape.gauged := by
  rw [settle]
  split <;> rfl

private theorem settleAll_keeps (tasks : List (Ticket × Settlement group))
    (shape : ShapeGroup group) :
    let after := tasks.foldl (fun shape task => shape.settle task.1 task.2) shape
    Keeps shape.producers after.producers ∧ after.pending = shape.pending
      ∧ after.join = shape.join ∧ after.gauged = shape.gauged := by
  induction tasks generalizing shape with
  | nil => exact ⟨fun _ _ => id, rfl, rfl, rfl⟩
  | cons task rest ih =>
    obtain ⟨keeps, pending, join, gauged⟩ := ih (shape.settle task.1 task.2)
    rw [pending_settle] at pending
    rw [join_settle] at join
    rw [gauged_settle] at gauged
    exact ⟨(keeps_settle shape task.1 task.2).trans keeps, pending, join, gauged⟩

/-- Running tasks settles results and changes nothing else that a resolution sees. -/
theorem run_keeps (shape : ShapeGroup group) :
    Keeps shape.producers shape.run.producers ∧ shape.run.pending = shape.pending
      ∧ shape.run.join = shape.join ∧ shape.run.gauged = shape.gauged :=
  settleAll_keeps shape.scheduled { shape with scheduled := [] }

theorem producers_resolve (shape : ShapeGroup group) (collect : Bool) :
    (shape.resolve collect).1.producers = shape.producers := by
  have polled (shape : ShapeGroup group) (cells : PendingCells group) :
      (shape.poll collect cells).1.producers = shape.producers := by
    rw [poll]
    cases settled? shape.producers cells <;> rfl
  rw [resolve]
  split
  · rfl
  · exact polled _ _
  · exact polled _ _

/-! ## Shapes that fit their history -/

/-- The shape holds what its history says, and no call has seen another outcome. -/
inductive Fits (shape : ShapeGroup group) (history : ShapeHistory group) : Prop where
  | idle (notStarted : shape.join = none) (pending : shape.pending = filed history.registered)
      (unanswered : ∀ outcome, .completed outcome ∉ history.calls)
  | waiting (started : shape.join = some (.waiting (filed history.registered)))
      (unanswered : ∀ outcome, .completed outcome ∉ history.calls)
  | finished {settled : SettledCells group}
      (isSettled : settled? shape.producers (filed history.registered) = some settled)
      (ended : shape.join = some (.finished settled.resolve))
      (answered : ∀ outcome, .completed outcome ∈ history.calls → outcome = settled.resolve)

namespace Fits

variable {shape : ShapeGroup group} {history : ShapeHistory group}

theorem new : ({} : ShapeGroup group).Fits {} := .idle rfl rfl (by simp)

/-- Results may settle at any time. -/
theorem of_keeps (fits : shape.Fits history) {after : ShapeGroup group}
    (keeps : Keeps shape.producers after.producers) (pending : after.pending = shape.pending)
    (join : after.join = shape.join) : after.Fits history := by
  cases fits with
  | idle notStarted isFiled unanswered =>
    exact .idle (join.trans notStarted) (pending.trans isFiled) unanswered
  | waiting started unanswered => exact .waiting (join.trans started) unanswered
  | finished isSettled ended answered =>
    exact .finished (keeps.settled? isSettled) (join.trans ended) answered

/-- Results are registered before the resolution starts. -/
theorem register (fits : shape.Fits history) (notStarted : shape.join = none) (collect : Bool)
    (key : CellKey) (cell : PendingCell group) :
    (shape.register collect key cell).1.Fits
      { history with registered := history.registered ++ [(key, cell)] } := by
  cases fits with
  | idle _ pending unanswered =>
    refine .idle notStarted ?_ unanswered
    rw [← append_filed, ← pending]
    rfl
  | waiting started => simp [notStarted] at started
  | finished _ ended => simp [notStarted] at ended

/-- Calls may begin and be given up at any time. -/
theorem of_calls (fits : shape.Fits history) {calls : List (ResolveCall group)}
    (known : ∀ outcome, .completed outcome ∈ calls → .completed outcome ∈ history.calls) :
    shape.Fits { history with calls } := by
  cases fits with
  | idle notStarted pending unanswered =>
    exact .idle notStarted pending fun outcome => mt (known outcome) (unanswered outcome)
  | waiting started unanswered =>
    exact .waiting started fun outcome => mt (known outcome) (unanswered outcome)
  | finished isSettled ended answered =>
    exact .finished isSettled ended fun outcome => answered outcome ∘ known outcome

/-- Whoever polls, and however often, gets the outcome of the settled results once all registered
results have settled, and no answer before. -/
theorem answer_eq (fits : shape.Fits history) (collect : Bool) :
    (shape.resolve collect).2.1
      = (settled? shape.producers (filed history.registered)).map SettledCells.resolve := by
  cases fits with
  | idle notStarted pending =>
    rw [← pending]
    exact resolve_of_idle notStarted collect
  | waiting started =>
    simp only [resolve, started, poll]
    cases settled? shape.producers (filed history.registered) <;> rfl
  | finished isSettled ended =>
    simp only [resolve, ended, isSettled]
    rfl

/-- Completed calls have the outcome of the settled results. -/
theorem answered (fits : shape.Fits history) {outcome : Resolution group}
    (member : .completed outcome ∈ history.calls) :
    (settled? shape.producers (filed history.registered)).map SettledCells.resolve
      = some outcome := by
  cases fits with
  | idle _ _ unanswered => exact absurd member (unanswered outcome)
  | waiting _ unanswered => exact absurd member (unanswered outcome)
  | finished isSettled _ answered =>
    rw [isSettled, answered outcome member]
    rfl

/-- A completed call has the outcome that the join came to. -/
theorem join_of_completed (fits : shape.Fits history) {outcome : Resolution group}
    (member : .completed outcome ∈ history.calls) :
    shape.join = some (.finished outcome) := by
  cases fits with
  | idle _ _ unanswered => exact absurd member (unanswered outcome)
  | waiting _ unanswered => exact absurd member (unanswered outcome)
  | finished _ ended answered => rw [ended, answered outcome member]

/-- After a poll the one join holds all registered cells, or has come to their outcome. -/
theorem join_eq (fits : shape.Fits history) (collect : Bool) :
    (shape.resolve collect).1.join
      = some ((settled? shape.producers (filed history.registered)).elim
        (.waiting (filed history.registered)) fun settled => .finished settled.resolve) := by
  cases fits with
  | idle notStarted pending =>
    rw [← pending]
    simp only [ShapeGroup.resolve, notStarted, poll]
    cases settled? shape.producers shape.pending <;> rfl
  | waiting started =>
    simp only [ShapeGroup.resolve, started, poll]
    cases settled? shape.producers (filed history.registered) <;> rfl
  | finished isSettled ended =>
    simp only [ShapeGroup.resolve, ended, isSettled]
    rfl

/-- A poll hands out the outcome that the join came to, and no other. -/
theorem resolve (fits : shape.Fits history) (collect : Bool) {calls : List (ResolveCall group)}
    (known : ∀ outcome, .completed outcome ∈ calls →
      .completed outcome ∈ history.calls ∨ (shape.resolve collect).2.1 = some outcome) :
    (shape.resolve collect).1.Fits { history with calls } := by
  have join := fits.join_eq collect
  have outcomes (outcome : Resolution group) (member : .completed outcome ∈ calls) :
      (settled? shape.producers (filed history.registered)).map SettledCells.resolve
        = some outcome := by
    rcases known outcome member with old | new
    · exact fits.answered old
    · rwa [fits.answer_eq] at new
  cases isSettled : settled? shape.producers (filed history.registered) with
  | none =>
    rw [isSettled] at join outcomes
    exact .waiting join fun outcome member => nomatch outcomes outcome member
  | some settled =>
    rw [isSettled] at join outcomes
    have stillSettled : settled? (shape.resolve collect).1.producers (filed history.registered)
        = some settled := by
      rw [producers_resolve, isSettled]
    exact .finished stillSettled join fun outcome member =>
      (Option.some.inj (outcomes outcome member)).symm

end Fits

end ShapeGroup

end Forecast
