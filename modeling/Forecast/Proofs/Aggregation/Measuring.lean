import Forecast.Proofs.Aggregation.Runs
import Mathlib.Algebra.GroupWithZero.Nat

/-!
# Measurements of a run

What the collectors owe to a project can be read off its histories: the results registered, and the
shapes with a completed call.  A shape tallies if its own record, the number of results counted as
pending, agrees with its history.  Every step of a run keeps all shapes tallied and makes just the
measurements by which the collectors keep up with the histories.
-/

namespace Forecast

variable {group : OutputGroup}

/-! ## Outcomes in histories -/

/-- The outcome of a completed call. -/
def ResolveCall.outcome? : ResolveCall group → Option (Resolution group)
  | completed outcome => some outcome
  | awaiting | abandoned => none

namespace ShapeHistory

/-- The outcome of the first completed call. -/
def outcome? (history : ShapeHistory group) : Option (Resolution group) :=
  history.calls.findSome? ResolveCall.outcome?

theorem completed_of_outcome? {history : ShapeHistory group} {outcome : Resolution group}
    (found : history.outcome? = some outcome) : .completed outcome ∈ history.calls := by
  obtain ⟨call, member, isOutcome⟩ := List.exists_of_findSome?_eq_some found
  cases call with
  | completed other =>
    cases isOutcome
    exact member
  | awaiting | abandoned => cases isOutcome

theorem outcome?_eq_none {history : ShapeHistory group}
    (unanswered : ∀ outcome, .completed outcome ∉ history.calls) : history.outcome? = none := by
  rw [Option.eq_none_iff_forall_ne_some]
  exact fun outcome found => unanswered outcome (completed_of_outcome? found)

/-- An outcome that all completed calls have is the outcome. -/
theorem outcome?_of_agree {history : ShapeHistory group} {outcome : Resolution group}
    (completed : .completed outcome ∈ history.calls)
    (agree : ∀ other, .completed other ∈ history.calls → other = outcome) :
    history.outcome? = some outcome := by
  have found : history.outcome?.isSome :=
    List.findSome?_isSome_iff.mpr ⟨_, completed, rfl⟩
  obtain ⟨other, isOther⟩ := Option.isSome_iff_exists.mp found
  rw [isOther, agree other (completed_of_outcome? isOther)]

/-- Starting to wait is no outcome. -/
theorem outcome?_call (history : ShapeHistory group) :
    outcome? { history with calls := history.calls ++ [.awaiting] } = history.outcome? := by
  simp [outcome?, List.findSome?_append, ResolveCall.outcome?]

private theorem findSome?_set {α β : Type} {choose : α → Option β} {items : List α} {index : Nat}
    {old new : α} (found : items[index]? = some old) (same : choose new = choose old) :
    (items.set index new).findSome? choose = items.findSome? choose := by
  induction items generalizing index with
  | nil => rfl
  | cons first rest ih =>
    cases index with
    | zero =>
      obtain rfl : first = old := by simpa using found
      simp [List.findSome?_cons, same]
    | succ index => simp [List.findSome?_cons, ih (by simpa using found)]

/-- Nor is giving up. -/
theorem outcome?_abandon (history : ShapeHistory group) {index : Nat}
    (awaits : history.calls[index]? = some .awaiting) :
    outcome? { history with calls := history.calls.set index .abandoned } = history.outcome? :=
  findSome?_set awaits rfl

/-- Completing a call gives an outcome that no completed call contradicts. -/
theorem outcome?_complete {history : ShapeHistory group} {index : Nat} {outcome : Resolution group}
    (awaits : history.calls[index]? = some .awaiting)
    (agree : ∀ other, .completed other ∈ history.calls → other = outcome) :
    outcome? { history with calls := history.calls.set index (.completed outcome) }
      = some outcome := by
  obtain ⟨bound, -⟩ := List.getElem?_eq_some_iff.mp awaits
  refine outcome?_of_agree (List.mem_set bound _) fun other member => ?_
  rcases List.mem_or_eq_of_mem_set member with old | new
  · exact agree other old
  · cases new
    rfl

/-- What a collector owes to the shape of a project that measures and is kept. -/
def due (history : ShapeHistory group) : Collector → Nat
  | .pendingCells => if history.outcome?.isNone then history.registered.length else 0
  | .cellsRegistered other kind =>
      if other = group then history.registered.countP fun result => result.2.kind = kind else 0
  | .resolutions other success =>
      if other = group ∧ history.outcome?.map Except.isOk = some success then 1 else 0
  | .resolutionTimes other => if other = group ∧ history.outcome?.isSome then 1 else 0
  | .seriesBuilt _ => 0

/-- Calls matter only by their outcome. -/
theorem due_eq_of_outcome? {before after : ShapeHistory group}
    (registered : after.registered = before.registered)
    (outcome : after.outcome? = before.outcome?) : after.due = before.due := by
  funext collector
  cases collector <;> simp only [due, registered, outcome]

/-- The measurement of a result that is registered before there is an outcome. -/
theorem total_register (collect : Bool) {history : ShapeHistory group}
    (unresolved : history.outcome? = none) (key : CellKey) (cell : PendingCell group)
    (collector : Collector) :
    collector.total (if collect then [.registered group cell.kind] else [])
      = if collect then
          (due { history with registered := history.registered ++ [(key, cell)] } collector : Int)
            - history.due collector
        else 0 := by
  cases collect with
  | false => simp [Collector.total]
  | true =>
    have still : outcome? { history with
        registered := history.registered ++ [(key, cell)] } = none := unresolved
    simp only [if_true, Collector.total]
    cases collector with
    | pendingCells =>
      simp only [Collector.change, due, unresolved, still, Option.isNone_none, or_true,
        if_true, List.length_append, List.length_singleton]
      omega
    | cellsRegistered other kind =>
      by_cases same : other = group
      · subst same
        by_cases sameKind : kind = cell.kind
        · simp only [Collector.change, due, sameKind, true_or, if_true,
            List.countP_append, List.countP_singleton, decide_true]
          omega
        · simp [Collector.change, due, sameKind, Ne.symm sameKind]
      · simp [Collector.change, due, same]
    | resolutions | resolutionTimes | seriesBuilt =>
      simp [Collector.change, due, unresolved, still]

/-- The measurements of an outcome, by which no result is pending any more. -/
theorem total_resolved (collect : Bool) {before after : ShapeHistory group}
    (registered : after.registered = before.registered) (unresolved : before.outcome? = none)
    {outcome : Resolution group} (resolved : after.outcome? = some outcome)
    (collector : Collector) :
    collector.total ((if collect then [.resolved group outcome.isOk] else [])
        ++ [.released (if collect then before.registered.length else 0)])
      = if collect then (after.due collector : Int) - before.due collector else 0 := by
  cases collect with
  | false => simp [Collector.total, Collector.change]
  | true =>
    cases collector with
    | resolutions other success =>
      have flipped : success = outcome.isOk ↔ outcome.isOk = success := eq_comm
      by_cases same : other = group ∧ outcome.isOk = success <;>
        simp [Collector.total, Collector.change, due, unresolved, resolved, flipped, same]
    | resolutionTimes other =>
      by_cases same : other = group <;>
        simp [Collector.total, Collector.change, due, unresolved, resolved, same]
    | pendingCells | cellsRegistered | seriesBuilt =>
      simp [Collector.total, Collector.change, due, registered, unresolved, resolved]

end ShapeHistory

/-! ## One shape -/

namespace ShapeGroup

/-- What a poll does: it repeats the outcome, waits, or comes to the outcome. -/
inductive Polled (shape : ShapeGroup group) (collect : Bool) :
    ShapeGroup group × Option (Resolution group) × List Measurement → Prop where
  | repeats {outcome : Resolution group} (ended : shape.join = some (.finished outcome)) :
      Polled shape collect (shape, some outcome, [])
  | waits {after : ShapeGroup group} {cells : PendingCells group}
      (unfinished : ∀ outcome, shape.join ≠ some (.finished outcome))
      (started : after.join = some (.waiting cells)) (gauged : after.gauged = shape.gauged) :
      Polled shape collect (after, none, [])
  | ends {after : ShapeGroup group} {outcome : Resolution group}
      (unfinished : ∀ outcome, shape.join ≠ some (.finished outcome))
      (ended : after.join = some (.finished outcome)) (gauged : after.gauged = 0) :
      Polled shape collect (after, some outcome,
        (if collect then [.resolved group outcome.isOk] else []) ++ [.released shape.gauged])

theorem polled_resolve (shape : ShapeGroup group) (collect : Bool) :
    shape.Polled collect (shape.resolve collect) := by
  rw [resolve]
  split
  · rename_i ended
    exact .repeats ended
  · rename_i cells started
    have unfinished : ∀ outcome, shape.join ≠ some (.finished outcome) := by
      simp [started]
    rw [poll]
    split
    · exact .waits unfinished rfl rfl
    · exact .ends unfinished rfl rfl
  · rename_i idle
    have unfinished : ∀ outcome, shape.join ≠ some (.finished outcome) := by
      simp [idle]
    rw [poll]
    split
    · exact .waits unfinished rfl rfl
    · exact .ends unfinished rfl rfl

/-- The shape has an outcome only if a call has it, and counts as pending what its history has. -/
structure Tallies (shape : ShapeGroup group) (collect : Bool) (history : ShapeHistory group) :
    Prop where
  /-- An outcome has been handed out. -/
  outcome : ∀ outcome, shape.join = some (.finished outcome) → history.outcome? = some outcome
  /-- What is counted as pending is all that is registered, until there is an outcome. -/
  gauged : shape.gauged
    = if collect && history.outcome?.isNone then history.registered.length else 0

namespace Tallies

variable {shape : ShapeGroup group} {collect : Bool} {history : ShapeHistory group}

theorem new (collect : Bool) : ({} : ShapeGroup group).Tallies collect {} := by
  constructor
  · intro outcome ended
    cases ended
  · simp

/-- Results may settle at any time. -/
theorem of_join_eq (tallies : shape.Tallies collect history) {after : ShapeGroup group}
    (join : after.join = shape.join) (gauged : after.gauged = shape.gauged) :
    after.Tallies collect history :=
  ⟨join ▸ tallies.outcome, gauged.trans tallies.gauged⟩

/-- So may calls begin and be given up. -/
theorem of_outcome?_eq (tallies : shape.Tallies collect history)
    {calls : List (ResolveCall group)}
    (outcome : ShapeHistory.outcome? { history with calls } = history.outcome?) :
    shape.Tallies collect { history with calls } :=
  ⟨outcome ▸ tallies.outcome, outcome ▸ tallies.gauged⟩

/-- A result is registered before there is an outcome. -/
theorem register (tallies : shape.Tallies collect history) (unresolved : history.outcome? = none)
    (key : CellKey) (cell : PendingCell group) :
    (shape.register collect key cell).1.Tallies collect
      { history with registered := history.registered ++ [(key, cell)] } := by
  refine ⟨tallies.outcome, ?_⟩
  change shape.gauged + (if collect then 1 else 0) = if collect && history.outcome?.isNone
    then (history.registered ++ [(key, cell)]).length else 0
  rw [tallies.gauged, unresolved, List.length_append]
  cases collect <;> simp

/-- A poll keeps the tally, and measures the outcome and what is no longer pending. -/
theorem resolve (tallies : shape.Tallies collect history) (fits : shape.Fits history)
    {index : Nat} (awaits : history.calls[index]? = some .awaiting) :
    let after : ShapeHistory group := { history with
      calls := (shape.resolve collect).2.1.elim history.calls fun outcome =>
        history.calls.set index (.completed outcome) }
    (shape.resolve collect).1.Tallies collect after
      ∧ ∀ collector : Collector, collector.total (shape.resolve collect).2.2
        = if collect then (after.due collector : Int) - history.due collector else 0 := by
  have polled := shape.polled_resolve collect
  generalize shape.resolve collect = result at polled
  cases polled with
  | @repeats outcome ended =>
    -- The call that is completed now is not the first one, and the history has the outcome already.
    have isOutcome := tallies.outcome outcome ended
    have stillOutcome : ShapeHistory.outcome? { history with
        calls := history.calls.set index (.completed outcome) } = some outcome := by
      refine ShapeHistory.outcome?_complete awaits fun other completed => ?_
      have ends := fits.join_of_completed completed
      rw [ended] at ends
      cases ends
      rfl
    have same := stillOutcome.trans isOutcome.symm
    refine ⟨tallies.of_outcome?_eq same, fun collector => ?_⟩
    have sameDue : ShapeHistory.due { history with
        calls := history.calls.set index (.completed outcome) } = history.due :=
      ShapeHistory.due_eq_of_outcome? rfl same
    simp only [Option.elim_some, sameDue, Collector.total, Int.sub_self, ite_self]
  | waits unfinished started gauged =>
    refine ⟨⟨fun outcome ended => ?_, gauged.trans tallies.gauged⟩, fun collector => ?_⟩
    · rw [started] at ended
      cases ended
    · simp [Collector.total]
  | @ends after outcome unfinished ended gauged =>
    -- A call that had been completed before would have found the join finished.
    have unanswered (other : Resolution group) : .completed other ∉ history.calls :=
      fun completed => unfinished other (fits.join_of_completed completed)
    have noOutcome := ShapeHistory.outcome?_eq_none unanswered
    have isOutcome : ShapeHistory.outcome? { history with
        calls := history.calls.set index (.completed outcome) } = some outcome :=
      ShapeHistory.outcome?_complete awaits fun other completed =>
        absurd completed (unanswered other)
    refine ⟨⟨fun other endedOther => ?_, ?_⟩, fun collector => ?_⟩
    · rw [ended] at endedOther
      cases endedOther
      exact isOutcome
    · rw [gauged]
      simp [isOutcome]
    · rw [tallies.gauged, noOutcome, Option.isNone_none, Bool.and_true]
      have sameRegistered : ShapeHistory.registered { history with
          calls := history.calls.set index (.completed outcome) } = history.registered := rfl
      exact ShapeHistory.total_resolved collect sameRegistered noOutcome isOutcome collector

end Tallies

end ShapeGroup

/-- A sum over all shapes changes by the change of the only shape that does. -/
theorem OutputGroup.sum_all_sub {before after : OutputGroup → Nat} (group : OutputGroup)
    (others : ∀ other, other ≠ group → after other = before other) :
    ((OutputGroup.all.map after).sum : Int) - (OutputGroup.all.map before).sum
      = after group - before group := by
  cases group <;>
    simp only [OutputGroup.all, List.map_cons, List.map_nil, List.sum_cons, List.sum_nil, others,
      ne_eq, reduceCtorEq, not_false_eq_true] <;> omega

/-! ## Steps and what they measure -/

namespace ProjectRun

/-- Submit a computation, which registers its task.  A refusal leaves the run as it is. -/
def submit (run : ProjectRun) (hasRuntime : Bool) (group : OutputGroup) (key : CellKey)
    (settlement : Settlement group) : ProjectRun × List Measurement :=
  match run.project.submit hasRuntime group key settlement with
  | .error _ => (run, [])
  | .ok (project, measurements) =>
      ({ run.register group key (.task settlement) with project }, measurements)

/-- One step of a run with the measurements that it makes.  Dropping the project is one more. -/
inductive MeasuredStep (run : ProjectRun) : ProjectRun → List Measurement → Prop where
  | register (accumulating : run.project.phase = .accumulating) (group : OutputGroup)
      (key : CellKey) (source : CellSource group) :
      MeasuredStep run (run.register group key source) (run.project.register group key source).2.2
  | submit (accumulating : run.project.phase = .accumulating) (hasRuntime : Bool)
      (group : OutputGroup) (key : CellKey) (settlement : Settlement group) :
      MeasuredStep run (run.submit hasRuntime group key settlement).1
        (run.submit hasRuntime group key settlement).2
  | build : MeasuredStep run { run with project := run.project.build } []
  | settle {group : OutputGroup} {key : CellKey} {cell : PendingCell group}
      (registered : (key, cell) ∈ (run.histories group).registered) {ticket : Ticket}
      {settlement : Settlement group} (ends : cell.Ends ticket settlement) :
      MeasuredStep run (run.settle group ticket settlement) []
  | runTasks : MeasuredStep run { run with project := run.project.run } []
  | call (built : run.project.phase = .built) (group : OutputGroup) :
      MeasuredStep run (run.withCalls group ((run.histories group).calls ++ [.awaiting])) []
  | poll (built : run.project.phase = .built) {group : OutputGroup} {index : Nat}
      (awaits : (run.histories group).calls[index]? = some .awaiting) :
      MeasuredStep run (run.poll group index) (run.project.resolve group).2.2
  | abandon {group : OutputGroup} {index : Nat}
      (awaits : (run.histories group).calls[index]? = some .awaiting) :
      MeasuredStep run (run.withCalls group ((run.histories group).calls.set index .abandoned)) []
  | drop : MeasuredStep run { run with project := run.project.drop.1 } run.project.drop.2

/-- Every shape fits its history and tallies with it. -/
structure Tallied (run : ProjectRun) : Prop where
  /-- Shapes fit their histories. -/
  fits : run.Fits
  /-- What they count is what their histories say. -/
  shapes : ∀ group, (run.project.shapes group).Tallies run.project.collectMetrics
    (run.histories group)

/-- What a collector owes to the project.  Without collection that is nothing, and results of a
project that is dropped are no longer pending. -/
def due (run : ProjectRun) (collector : Collector) : Nat :=
  if run.project.collectMetrics = false
      ∨ collector = .pendingCells ∧ run.project.phase = .dropped then 0
  else (OutputGroup.all.map fun group => (run.histories group).due collector).sum

/-- A change that keeps the run tallied, with measurements by which the collectors follow it. -/
structure KeepsUp (before after : ProjectRun) (made : List Measurement) : Prop where
  tallied : after.Tallied
  /-- Every collector changes by as much as it owes more or less than before. -/
  total : ∀ collector : Collector,
    collector.total made = (after.due collector : Int) - before.due collector

/-- Where nothing is measured, nothing may change that the collectors follow. -/
theorem keepsUp_of_silent {run after : ProjectRun} (tallied : after.Tallied)
    (collect : after.project.collectMetrics = run.project.collectMetrics)
    (dropped : after.project.phase = .dropped ↔ run.project.phase = .dropped)
    (histories : ∀ group, (after.histories group).due = (run.histories group).due) :
    KeepsUp run after [] := by
  refine ⟨tallied, fun collector => ?_⟩
  simp only [Collector.total, due, collect, dropped, histories, Int.sub_self]

/-- A change of one shape is measured as if there were no others. -/
theorem keepsUp_of_update {run : ProjectRun} (tallied : run.Tallied)
    (kept : run.project.phase ≠ .dropped) {group : OutputGroup} {shape : ShapeGroup group}
    {history : ShapeHistory group} {made : List Measurement}
    (fits : Fits ⟨run.project.setShape group shape, run.setHistory group history⟩)
    (tallies : shape.Tallies run.project.collectMetrics history)
    (total : ∀ collector : Collector, collector.total made = if run.project.collectMetrics then
      (history.due collector : Int) - (run.histories group).due collector else 0) :
    KeepsUp run ⟨run.project.setShape group shape, run.setHistory group history⟩ made := by
  refine ⟨⟨fits, ?_⟩, fun collector => ?_⟩
  · exact @forall_update run
      (fun _ shape history => shape.Tallies run.project.collectMetrics history) tallied.shapes
      group shape history tallies
  · have collect : (run.project.setShape group shape).collectMetrics
        = run.project.collectMetrics := rfl
    have stillKept : (run.project.setShape group shape).phase ≠ .dropped := kept
    have others (other : OutputGroup) (differs : other ≠ group) :
        (run.setHistory group history other).due collector
          = (run.histories other).due collector := by
      rw [setHistory, Function.update_of_ne differs]
    have change := OutputGroup.sum_all_sub group others
    rw [setHistory, Function.update_self] at change
    simp only [total, due, collect, stillKept, kept, and_false, or_false]
    cases run.project.collectMetrics with
    | false => rfl
    | true => exact change.symm

variable {run : ProjectRun}

/-- While results are registered no call has been completed. -/
theorem Tallied.outcome?_eq_none (tallied : run.Tallied)
    (accumulating : run.project.phase = .accumulating) (group : OutputGroup) :
    (run.histories group).outcome? = none := by
  have idle := tallied.fits.idle accumulating group
  refine ShapeHistory.outcome?_eq_none fun outcome completed => ?_
  have ended := (tallied.fits.shapes group).join_of_completed completed
  rw [idle] at ended
  cases ended

theorem Tallied.register (tallied : run.Tallied)
    (accumulating : run.project.phase = .accumulating) (group : OutputGroup) (key : CellKey)
    (source : CellSource group) :
    KeepsUp run (run.register group key source) (run.project.register group key source).2.2 := by
  have kept : run.project.phase ≠ .dropped := by
    rw [accumulating]
    decide
  have unresolved := tallied.outcome?_eq_none accumulating group
  have fits := tallied.fits.register accumulating group key source
  obtain ⟨enlisted, -, join, gauged, registered⟩ := register_project run.project group key source
  have tallies := ((tallied.shapes group).of_join_eq join gauged).register unresolved key
    (source.cell (run.project.shapes group).producers.length)
  rw [ProjectRun.register, registered] at fits ⊢
  rw [measurements_register _ _ _ _ (run.project.shapes group).producers.length]
  exact keepsUp_of_update tallied kept fits tallies
    (ShapeHistory.total_register run.project.collectMetrics unresolved key _)

theorem Tallied.submit (tallied : run.Tallied)
    (accumulating : run.project.phase = .accumulating) (hasRuntime : Bool) (group : OutputGroup)
    (key : CellKey) (settlement : Settlement group) :
    KeepsUp run (run.submit hasRuntime group key settlement).1
      (run.submit hasRuntime group key settlement).2 := by
  cases hasRuntime with
  | false => exact keepsUp_of_silent tallied rfl Iff.rfl fun _ => rfl
  | true => exact tallied.register accumulating group key (.task settlement)

theorem Tallied.build (tallied : run.Tallied) :
    KeepsUp run { run with project := run.project.build } [] := by
  have fits := tallied.fits.build
  revert fits
  rw [Project.build]
  split
  · rename_i accumulating
    intro fits
    refine keepsUp_of_silent ⟨fits, tallied.shapes⟩ rfl ?_ fun _ => rfl
    simp [accumulating]
  · intro _
    exact keepsUp_of_silent tallied rfl Iff.rfl fun _ => rfl

theorem Tallied.settle (tallied : run.Tallied) (group : OutputGroup) (ticket : Ticket)
    (settlement : Settlement group) : KeepsUp run (run.settle group ticket settlement) [] := by
  have fits := tallied.fits.settle group ticket settlement
  revert fits
  rw [ProjectRun.settle, Project.send]
  split
  · intro _
    exact keepsUp_of_silent tallied rfl Iff.rfl fun _ => rfl
  · intro fits
    have tallies := (tallied.shapes group).of_join_eq
      ((run.project.shapes group).join_settle ticket settlement)
      ((run.project.shapes group).gauged_settle ticket settlement)
    have shapes := @forall_update run
      (fun _ shape history => shape.Tallies run.project.collectMetrics history) tallied.shapes
      group _ _ tallies
    rw [setHistory, Function.update_eq_self] at shapes
    exact keepsUp_of_silent ⟨fits, shapes⟩ rfl Iff.rfl fun _ => rfl

theorem Tallied.runTasks (tallied : run.Tallied) :
    KeepsUp run { run with project := run.project.run } [] := by
  refine keepsUp_of_silent ⟨tallied.fits.runTasks, fun group => ?_⟩ rfl Iff.rfl fun _ => rfl
  obtain ⟨-, -, join, gauged⟩ := (run.project.shapes group).run_keeps
  exact (tallied.shapes group).of_join_eq join gauged

/-- Calls that leave the outcome alone are not measured. -/
theorem Tallied.withCalls (tallied : run.Tallied) {group : OutputGroup}
    {calls : List (ResolveCall group)} (fits : (run.withCalls group calls).Fits)
    (outcome : ShapeHistory.outcome? { run.histories group with calls }
      = (run.histories group).outcome?) : KeepsUp run (run.withCalls group calls) [] := by
  have shapes := @forall_setHistory run
    (fun group history => (run.project.shapes group).Tallies run.project.collectMetrics history)
    tallied.shapes group _ ((tallied.shapes group).of_outcome?_eq outcome)
  have dues := @forall_setHistory run
    (fun group history => history.due = (run.histories group).due) (fun _ => rfl) group
    { run.histories group with calls } (ShapeHistory.due_eq_of_outcome? rfl outcome)
  exact keepsUp_of_silent ⟨fits, shapes⟩ rfl Iff.rfl dues

theorem Tallied.poll (tallied : run.Tallied) (built : run.project.phase = .built)
    {group : OutputGroup} {index : Nat}
    (awaits : (run.histories group).calls[index]? = some .awaiting) :
    KeepsUp run (run.poll group index) (run.project.resolve group).2.2 := by
  have kept : run.project.phase ≠ .dropped := by
    rw [built]
    decide
  obtain ⟨tallies, total⟩ :=
    (tallied.shapes group).resolve (tallied.fits.shapes group) awaits
  exact keepsUp_of_update tallied kept (tallied.fits.poll built group index) tallies total

/-- The results that the shapes count are those that the gauge of pending cells owes. -/
theorem Tallied.sum_gauged (tallied : run.Tallied) (kept : run.project.phase ≠ .dropped) :
    (OutputGroup.all.map fun group => (run.project.shapes group).gauged).sum
      = run.due .pendingCells := by
  have gauged (group : OutputGroup) := (tallied.shapes group).gauged
  simp only [gauged, due, kept, and_false, or_false]
  cases run.project.collectMetrics with
  | false => rfl
  | true => simp only [Bool.true_and, Bool.true_eq_false, if_false, ShapeHistory.due]

theorem total_release (project : Project) (collector : Collector) :
    collector.total (OutputGroup.all.flatMap fun group => (project.shapes group).release)
      = if collector = .pendingCells then
          -((OutputGroup.all.map fun group => (project.shapes group).gauged).sum : Int)
        else 0 := by
  simp only [OutputGroup.all, ShapeGroup.release, List.flatMap_cons, List.flatMap_nil,
    List.append_nil, List.cons_append, List.nil_append, Collector.total, Collector.change,
    List.map_cons, List.map_nil, List.sum_cons, List.sum_nil]
  split <;> omega

/-- Dropping the project takes off what is still pending, and nothing else. -/
theorem Tallied.drop (tallied : run.Tallied) :
    KeepsUp run { run with project := run.project.drop.1 } run.project.drop.2 := by
  rw [Project.drop]
  split
  · exact keepsUp_of_silent tallied rfl Iff.rfl fun _ => rfl
  · rename_i kept
    refine ⟨⟨⟨tallied.fits.shapes, by simp⟩, tallied.shapes⟩, fun collector => ?_⟩
    rw [total_release, tallied.sum_gauged kept]
    by_cases isPending : collector = .pendingCells
    · subst isPending
      simp [due]
    · simp [due, isPending]

/-- Every step keeps the run tallied and is measured as it changes the histories. -/
theorem MeasuredStep.keepsUp {after : ProjectRun} {made : List Measurement}
    (step : run.MeasuredStep after made) (tallied : run.Tallied) : KeepsUp run after made := by
  cases step with
  | register accumulating group key source => exact tallied.register accumulating group key source
  | submit accumulating hasRuntime group key settlement =>
    exact tallied.submit accumulating hasRuntime group key settlement
  | build => exact tallied.build
  | settle registered ends => exact tallied.settle _ _ _
  | runTasks => exact tallied.runTasks
  | call built group =>
    exact tallied.withCalls ((Step.call built group).fits tallied.fits)
      (ShapeHistory.outcome?_call _)
  | poll built awaits => exact tallied.poll built awaits
  | abandon awaits =>
    exact tallied.withCalls ((Step.abandon awaits).fits tallied.fits)
      (ShapeHistory.outcome?_abandon _ awaits)
  | drop => exact tallied.drop

theorem tallied_start (collectMetrics : Bool) : (ProjectRun.start collectMetrics).Tallied where
  fits := ⟨fun _ => .new, fun _ _ => rfl⟩
  shapes _ := .new collectMetrics

/-- A project without cells owes nothing. -/
theorem due_start (collectMetrics : Bool) (collector : Collector) :
    (ProjectRun.start collectMetrics).due collector = 0 := by
  have nothing (group : OutputGroup) : ({} : ShapeHistory group).due collector = 0 := by
    cases collector <;> simp [ShapeHistory.due, ShapeHistory.outcome?]
  simp [due, start, nothing]

end ProjectRun

end Forecast
