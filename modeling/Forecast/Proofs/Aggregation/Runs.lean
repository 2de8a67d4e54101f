import Forecast.Aggregation.Project
import Forecast.Proofs.Aggregation.Settling
import Mathlib.Logic.Function.Basic

/-!
# Runs of a project

A run registers results, builds the project, settles tasks and channels, and asks for outcomes, in
any order that the phases allow.  Calls may be given up while they wait.  The shapes of a project
fit their histories throughout, so a call is answered only when all results registered for its
shape have settled, and all calls of a shape are answered alike.
-/

namespace Forecast

/-- The result that is registered, with the ticket of its task or channel. -/
def CellSource.cell {group : OutputGroup} (ticket : Ticket) : CellSource group → PendingCell group
  | ready result => .ready result
  | task _ => .task ticket
  | channel => .channel ticket

/-- How the result of a task or channel comes about. -/
inductive PendingCell.Ends {group : OutputGroup} (ticket : Ticket) :
    PendingCell group → Settlement group → Prop where
  | finished (result : CellResult group) : Ends ticket (.task ticket) (.ofResult result)
  | panicked (report : String) : Ends ticket (.task ticket) (.failed (.panicked report))
  | cancelled : Ends ticket (.task ticket) (.interrupted .cancelled)
  | sent (result : CellResult group) : Ends ticket (.channel ticket) (.ofResult result)
  | dropped : Ends ticket (.channel ticket) (.interrupted .abandoned)

/-- A project with the histories of its shapes. -/
structure ProjectRun where
  project : Project
  /-- What the cells of each shape have gone through. -/
  histories : (group : OutputGroup) → ShapeHistory group

namespace ProjectRun

/-- A run at its beginning. -/
def start (collectMetrics : Bool) : ProjectRun :=
  { project := Project.new collectMetrics
    histories := fun _ => {} }

/-- Replace the history of one shape. -/
def setHistory (run : ProjectRun) (group : OutputGroup) (history : ShapeHistory group) :
    (group : OutputGroup) → ShapeHistory group :=
  Function.update run.histories group history

/-- Replace the calls of one shape. -/
def withCalls (run : ProjectRun) (group : OutputGroup) (calls : List (ResolveCall group)) :
    ProjectRun :=
  { run with histories := run.setHistory group { run.histories group with calls } }

/-- Register a result, under the next ticket of its shape. -/
def register (run : ProjectRun) (group : OutputGroup) (key : CellKey)
    (source : CellSource group) : ProjectRun :=
  let ticket : Ticket := (run.project.shapes group).producers.length
  let history := run.histories group
  { project := (run.project.register group key source).2.1
    histories := run.setHistory group
      { history with registered := history.registered ++ [(key, source.cell ticket)] } }

/-- Settle the result of a task or channel. -/
def settle (run : ProjectRun) (group : OutputGroup) (ticket : Ticket)
    (settlement : Settlement group) : ProjectRun :=
  { run with project := (run.project.send group ticket settlement).2 }

/-- Poll for a call, which is completed if there is an answer. -/
def poll (run : ProjectRun) (group : OutputGroup) (index : Nat) : ProjectRun :=
  let (project, answer, _) := run.project.resolve group
  let calls := (run.histories group).calls
  { project
    histories := run.setHistory group
      { run.histories group with
        calls := answer.elim calls fun outcome => calls.set index (.completed outcome) } }

/-- One step of a run. -/
inductive Step (run : ProjectRun) : ProjectRun → Prop where
  | register (accumulating : run.project.phase = .accumulating) (group : OutputGroup)
      (key : CellKey) (source : CellSource group) : Step run (run.register group key source)
  | build : Step run { run with project := run.project.build }
  | settle {group : OutputGroup} {key : CellKey} {cell : PendingCell group}
      (registered : (key, cell) ∈ (run.histories group).registered) {ticket : Ticket}
      {settlement : Settlement group} (ends : cell.Ends ticket settlement) :
      Step run (run.settle group ticket settlement)
  | runTasks : Step run { run with project := run.project.run }
  | call (built : run.project.phase = .built) (group : OutputGroup) :
      Step run (run.withCalls group ((run.histories group).calls ++ [.awaiting]))
  | poll (built : run.project.phase = .built) {group : OutputGroup} {index : Nat}
      (awaits : (run.histories group).calls[index]? = some .awaiting) :
      Step run (run.poll group index)
  | abandon {group : OutputGroup} {index : Nat}
      (awaits : (run.histories group).calls[index]? = some .awaiting) :
      Step run (run.withCalls group ((run.histories group).calls.set index .abandoned))

/-- What a run comes to from its beginning. -/
inductive Reachable : ProjectRun → Prop where
  | start (collectMetrics : Bool) : Reachable (ProjectRun.start collectMetrics)
  | step {before after : ProjectRun} (reachable : Reachable before) (step : Step before after) :
      Reachable after

/-! ## The invariant -/

/-- Every shape fits its history, and none has started to resolve while results are registered. -/
structure Fits (run : ProjectRun) : Prop where
  /-- Shapes fit their histories. -/
  shapes : ∀ group, (run.project.shapes group).Fits (run.histories group)
  /-- No shape resolves while the project accumulates. -/
  idle : run.project.phase = .accumulating → ∀ group, (run.project.shapes group).join = none

/-- A change of one history concerns no other. -/
theorem forall_setHistory {run : ProjectRun}
    {holds : (group : OutputGroup) → ShapeHistory group → Prop}
    (all : ∀ group, holds group (run.histories group)) {group : OutputGroup}
    {history : ShapeHistory group} (changed : holds group history) (other : OutputGroup) :
    holds other (run.setHistory group history other) := by
  rw [setHistory]
  by_cases same : other = group
  · subst same
    rwa [Function.update_self]
  · rw [Function.update_of_ne same]
    exact all other

/-- Neither does a change of one shape with its history. -/
theorem forall_update {run : ProjectRun}
    {holds : (group : OutputGroup) → ShapeGroup group → ShapeHistory group → Prop}
    (all : ∀ group, holds group (run.project.shapes group) (run.histories group))
    {group : OutputGroup} {shape : ShapeGroup group} {history : ShapeHistory group}
    (changed : holds group shape history) (other : OutputGroup) :
    holds other ((run.project.setShape group shape).shapes other)
      (run.setHistory group history other) := by
  rw [setHistory]
  by_cases same : group = other
  · subst same
    rw [Project.shapes_setShape_same, Function.update_self]
    exact changed
  · rw [Project.shapes_setShape_of_ne _ _ same, Function.update_of_ne (Ne.symm same)]
    exact all other

private theorem fits_update {run : ProjectRun} (fits : run.Fits) {group : OutputGroup}
    {shape : ShapeGroup group} {history : ShapeHistory group} (changed : shape.Fits history)
    (other : OutputGroup) :
    ((run.project.setShape group shape).shapes other).Fits
      (run.setHistory group history other) :=
  @forall_update run (fun _ shape history => shape.Fits history) fits.shapes group shape history
    changed other

private theorem join_update {project : Project}
    (idle : ∀ group, (project.shapes group).join = none) {group : OutputGroup}
    {shape : ShapeGroup group} (changed : shape.join = none) (other : OutputGroup) :
    ((project.setShape group shape).shapes other).join = none := by
  by_cases same : group = other
  · subst same
    rw [Project.shapes_setShape_same]
    exact changed
  · rw [Project.shapes_setShape_of_ne _ _ same]
    exact idle other

/-- Registering enlists a task or channel, and files its result in its shape only. -/
theorem register_project (project : Project) (group : OutputGroup) (key : CellKey)
    (source : CellSource group) :
    ∃ enlisted : ShapeGroup group, enlisted.pending = (project.shapes group).pending
      ∧ enlisted.join = (project.shapes group).join
      ∧ enlisted.gauged = (project.shapes group).gauged
      ∧ (project.register group key source).2.1 = project.setShape group
        (enlisted.register project.collectMetrics key
          (source.cell (project.shapes group).producers.length)).1 := by
  cases source with
  | ready result => exact ⟨_, rfl, rfl, rfl, rfl⟩
  | task settlement =>
    let ticket := (project.shapes group).producers.length
    let scheduled := (project.shapes group).scheduled ++ [(ticket, settlement)]
    exact ⟨{ (project.shapes group).enlist.2 with scheduled }, rfl, rfl, rfl, rfl⟩
  | channel => exact ⟨(project.shapes group).enlist.2, rfl, rfl, rfl, rfl⟩

/-- Registering measures the result that it files. -/
theorem measurements_register (project : Project) (group : OutputGroup) (key : CellKey)
    (source : CellSource group) (ticket : Ticket) :
    (project.register group key source).2.2
      = if project.collectMetrics then [.registered group (source.cell ticket).kind] else [] := by
  cases source <;> rfl

theorem Fits.register {run : ProjectRun} (fits : run.Fits)
    (accumulating : run.project.phase = .accumulating) (group : OutputGroup) (key : CellKey)
    (source : CellSource group) : (run.register group key source).Fits := by
  have idle := fits.idle accumulating
  obtain ⟨enlisted, pending, join, -, registered⟩ := register_project run.project group key source
  have notStarted : enlisted.join = none := join.trans (idle group)
  -- A new producer changes the table of producers, which an idle shape does not depend on.
  have enlistedFits : enlisted.Fits (run.histories group) := by
    cases fits.shapes group with
    | idle _ isFiled unanswered =>
      exact .idle notStarted (pending.trans isFiled) unanswered
    | waiting started =>
      rw [idle group] at started
      cases started
    | finished _ ended =>
      rw [idle group] at ended
      cases ended
  let cell := source.cell (run.project.shapes group).producers.length
  have filed := enlistedFits.register notStarted run.project.collectMetrics key cell
  have stillIdle : (enlisted.register run.project.collectMetrics key cell).1.join = none :=
    notStarted
  constructor
  · intro other
    rw [ProjectRun.register, registered]
    exact fits_update fits filed other
  · intro _ other
    rw [ProjectRun.register, registered]
    exact join_update idle stillIdle other

theorem Fits.settle {run : ProjectRun} (fits : run.Fits) (group : OutputGroup) (ticket : Ticket)
    (settlement : Settlement group) : (run.settle group ticket settlement).Fits := by
  rw [ProjectRun.settle, Project.send]
  split
  · exact fits
  · let shape := run.project.shapes group
    have settled : (shape.settle ticket settlement).Fits (run.histories group) :=
      (fits.shapes group).of_keeps (shape.keeps_settle ticket settlement)
        (shape.pending_settle ticket settlement) (shape.join_settle ticket settlement)
    constructor
    · intro other
      have updated := fits_update fits settled other
      rwa [setHistory, Function.update_eq_self] at updated
    · intro accumulating
      have idle := fits.idle accumulating
      exact join_update idle ((shape.join_settle ticket settlement).trans (idle group))

theorem Fits.runTasks {run : ProjectRun} (fits : run.Fits) :
    Fits { run with project := run.project.run } := by
  constructor
  · intro group
    obtain ⟨keeps, pending, join, -⟩ := (run.project.shapes group).run_keeps
    exact (fits.shapes group).of_keeps keeps pending join
  · intro accumulating group
    obtain ⟨-, -, join, -⟩ := (run.project.shapes group).run_keeps
    exact join.trans (fits.idle accumulating group)

theorem Fits.build {run : ProjectRun} (fits : run.Fits) :
    Fits { run with project := run.project.build } := by
  rw [Project.build]
  split
  · exact ⟨fits.shapes, nofun⟩
  · exact fits

theorem Fits.withCalls {run : ProjectRun} (fits : run.Fits) {group : OutputGroup}
    {calls : List (ResolveCall group)}
    (known : ∀ outcome, .completed outcome ∈ calls →
      .completed outcome ∈ (run.histories group).calls) : (run.withCalls group calls).Fits := by
  have shapes := @forall_setHistory run
    (fun group history => (run.project.shapes group).Fits history) fits.shapes group _
    ((fits.shapes group).of_calls known)
  exact ⟨shapes, fits.idle⟩

theorem Fits.poll {run : ProjectRun} (fits : run.Fits) (built : run.project.phase = .built)
    (group : OutputGroup) (index : Nat) : (run.poll group index).Fits := by
  have polled : ((run.project.shapes group).resolve run.project.collectMetrics).1.Fits
      { run.histories group with
        calls := (run.project.resolve group).2.1.elim (run.histories group).calls
          fun outcome => (run.histories group).calls.set index (.completed outcome) } := by
    refine (fits.shapes group).resolve run.project.collectMetrics fun outcome member => ?_
    change _ ∨ (run.project.resolve group).2.1 = some outcome
    cases answer : (run.project.resolve group).2.1 with
    | none =>
      rw [answer] at member
      exact .inl member
    | some other =>
      rw [answer] at member
      rcases List.mem_or_eq_of_mem_set member with old | new
      · exact .inl old
      · cases new
        exact .inr rfl
  constructor
  · exact fits_update fits polled
  · intro accumulating
    change run.project.phase = .accumulating at accumulating
    rw [built] at accumulating
    cases accumulating

/-- Every step keeps the shapes fit to their histories. -/
theorem Step.fits {before after : ProjectRun} (step : Step before after) (fits : before.Fits) :
    after.Fits := by
  cases step with
  | register accumulating group key source => exact fits.register accumulating group key source
  | build => exact fits.build
  | settle _ _ => exact fits.settle _ _ _
  | runTasks => exact fits.runTasks
  | call _ group =>
    refine fits.withCalls fun outcome member => ?_
    simpa using member
  | poll built _ => exact fits.poll built _ _
  | abandon _ =>
    refine fits.withCalls fun outcome member => ?_
    rcases List.mem_or_eq_of_mem_set member with old | new
    · exact old
    · cases new

theorem Reachable.fits {run : ProjectRun} (reachable : run.Reachable) : run.Fits := by
  induction reachable with
  | start collectMetrics => exact ⟨fun _ => .new, fun _ _ => rfl⟩
  | step _ step ih => exact step.fits ih

/-! ## Agreement -/

/-- Whatever happens in whatever order, a call is completed only once all results registered for its
shape have settled, with the outcome that they determine, and so all completed calls of a shape
agree.  A poll has an answer in just these states, no matter which calls were given up before. -/
theorem Reachable.agreement {run : ProjectRun} (reachable : run.Reachable) (group : OutputGroup) :
    (∀ outcome, .completed outcome ∈ (run.histories group).calls →
        ∃ results, ShapeGroup.SettledAs (run.project.shapes group).producers
            (run.histories group).registered results
          ∧ ShapeResults.Determine (under results) outcome)
      ∧ (∀ first second, .completed first ∈ (run.histories group).calls →
          .completed second ∈ (run.histories group).calls → first = second)
      ∧ ∀ outcome, (run.project.resolve group).2.1 = some outcome ↔
          ∃ results, ShapeGroup.SettledAs (run.project.shapes group).producers
              (run.histories group).registered results
            ∧ ShapeResults.Determine (under results) outcome := by
  have fits := reachable.fits
  refine ⟨fun outcome member => ?_, fun first second isFirst isSecond => ?_, fun outcome => ?_⟩
  · rw [← ShapeGroup.map_resolve_eq_some_iff]
    exact (fits.shapes group).answered member
  · have one := (fits.shapes group).answered isFirst
    rw [(fits.shapes group).answered isSecond] at one
    exact (Option.some.inj one).symm
  · have answer : (run.project.resolve group).2.1 = _ :=
      (fits.shapes group).answer_eq run.project.collectMetrics
    rw [answer]
    exact ShapeGroup.map_resolve_eq_some_iff

/-- A call that gives up before its channel settles loses nothing for the next one. -/
theorem Reachable.agreement_resumed :
    let key : CellKey := ⟨.unbounded, .allData⟩
    let registered := (ProjectRun.start true).register .doubleScore key .channel
    let built := { registered with project := registered.project.build }
    let called := built.withCalls .doubleScore [.awaiting]
    let polled := called.poll .doubleScore 0
    let abandoned := polled.withCalls .doubleScore [.abandoned]
    let settled := abandoned.settle .doubleScore 0 (.interrupted .abandoned)
    let resumed := settled.withCalls .doubleScore [.abandoned, .awaiting]
    let completed := resumed.poll .doubleScore 1
    completed.Reachable ∧ (completed.histories .doubleScore).calls
        = [.abandoned, .completed (.error (.interrupted .doubleScore key .abandoned))]
      ∧ ∃ results, ShapeGroup.SettledAs (completed.project.shapes .doubleScore).producers
          (completed.histories .doubleScore).registered results
        ∧ ShapeResults.Determine (under results)
          (.error (.interrupted .doubleScore key .abandoned)) := by
  intro key registered built called polled abandoned settled resumed completed
  have begun : called.Reachable :=
    (((Reachable.start true).step (.register rfl .doubleScore key .channel)).step .build).step
      (.call rfl .doubleScore)
  have awaits : (polled.histories .doubleScore).calls[0]? = some .awaiting := rfl
  have givenUp : abandoned.Reachable := (begun.step (.poll rfl rfl)).step (.abandon awaits)
  have isRegistered : (key, .channel 0) ∈ (abandoned.histories .doubleScore).registered :=
    List.mem_singleton_self _
  have reachable : completed.Reachable :=
    ((givenUp.step (.settle isRegistered .dropped)).step (.call rfl .doubleScore)).step
      (.poll rfl rfl)
  have calls : (completed.histories .doubleScore).calls
      = [.abandoned, .completed (.error (.interrupted .doubleScore key .abandoned))] := rfl
  obtain ⟨determined, -, -⟩ := Reachable.agreement reachable .doubleScore
  refine ⟨reachable, calls, determined _ ?_⟩
  rw [calls]
  exact List.mem_of_getElem? (i := 1) rfl

end ProjectRun

end Forecast
