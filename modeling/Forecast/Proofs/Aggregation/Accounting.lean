import Forecast.Proofs.Aggregation.Measuring
import Forecast.Series.Measured
import Mathlib.Algebra.BigOperators.Group.List.Basic

/-!
# Accounting

A program runs any number of projects, one step of one of them at a time, and builds series in
between.  All of them share the collectors.  After every step each collector shows what it owes to
all projects together: the gauge of pending cells the results that wait for the outcome of their
shape in a project that is kept, and the counters how often something has happened.
-/

namespace Forecast

/-! ## What the collectors show of a project -/

namespace ProjectRun

/-- Number of results registered with collection that wait for the outcome of their shape in a
project that is kept. -/
def pending (run : ProjectRun) : Nat :=
  if run.project.collectMetrics = true ∧ run.project.phase ≠ .dropped then
    (OutputGroup.all.map fun group =>
      if (run.histories group).outcome?.isNone then (run.histories group).registered.length
      else 0).sum
  else 0

/-- Number of results of a kind registered with collection. -/
def registrations (run : ProjectRun) (group : OutputGroup) (kind : RegistrationKind) : Nat :=
  if run.project.collectMetrics = true then
    (run.histories group).registered.countP fun result => result.2.kind = kind
  else 0

/-- With collection, a call for the outcome of the shape has been completed, with success or not. -/
def ResolvedAs (run : ProjectRun) (group : OutputGroup) (success : Bool) : Prop :=
  run.project.collectMetrics = true
    ∧ (run.histories group).outcome?.map Except.isOk = some success

/-- The project is dropped, or every shape with results has come to an outcome. -/
def Closed (run : ProjectRun) : Prop :=
  run.project.phase = .dropped
    ∨ ∀ group, (run.histories group).registered ≠ [] → (run.histories group).outcome?.isSome

instance (run : ProjectRun) (group : OutputGroup) (success : Bool) :
    Decidable (run.ResolvedAs group success) :=
  inferInstanceAs (Decidable (_ ∧ _))

theorem due_pendingCells (run : ProjectRun) : run.due .pendingCells = run.pending := by
  rw [due, pending]
  cases run.project.collectMetrics <;> by_cases dropped : run.project.phase = .dropped <;>
    simp [dropped, ShapeHistory.due]

/-- Other collectors owe nothing to shapes that they are not about. -/
theorem due_of_group {run : ProjectRun} {collector : Collector}
    (isCounter : collector ≠ .pendingCells) (group : OutputGroup)
    (others : ∀ other, other ≠ group → (run.histories other).due collector = 0) :
    run.due collector
      = if run.project.collectMetrics = true then (run.histories group).due collector else 0 := by
  have sum : (OutputGroup.all.map fun other => (run.histories other).due collector).sum
      = (run.histories group).due collector := by
    cases group <;> simp [OutputGroup.all, others]
  rw [due, sum]
  cases run.project.collectMetrics <;> simp [isCounter]

theorem due_cellsRegistered (run : ProjectRun) (group : OutputGroup) (kind : RegistrationKind) :
    run.due (.cellsRegistered group kind) = run.registrations group kind := by
  rw [due_of_group (by simp) group fun other differs => ?_, registrations]
  · simp [ShapeHistory.due]
  · simp [ShapeHistory.due, differs.symm]

theorem due_resolutions (run : ProjectRun) (group : OutputGroup) (success : Bool) :
    run.due (.resolutions group success) = if run.ResolvedAs group success then 1 else 0 := by
  rw [due_of_group (by simp) group fun other differs => ?_]
  · simp [ShapeHistory.due, ResolvedAs, ite_and]
  · simp [ShapeHistory.due, differs.symm]

theorem due_resolutionTimes (run : ProjectRun) (group : OutputGroup) :
    run.due (.resolutionTimes group)
      = run.due (.resolutions group true) + run.due (.resolutions group false) := by
  rw [due_of_group (by simp) group fun other differs => ?_, due_resolutions, due_resolutions]
  · by_cases collect : run.project.collectMetrics = true
    · cases outcome : (run.histories group).outcome? with
      | none => simp [ShapeHistory.due, ResolvedAs, collect, outcome]
      | some resolution =>
        cases isOk : resolution.isOk <;>
          simp [ShapeHistory.due, ResolvedAs, collect, outcome, isOk]
    · simp [ResolvedAs, collect]
  · simp [ShapeHistory.due, differs.symm]

theorem due_seriesBuilt (run : ProjectRun) (kind : SeriesKind) :
    run.due (.seriesBuilt kind) = 0 := by
  simp [due, ShapeHistory.due]

/-- A project that is closed has no results that wait. -/
theorem Closed.pending_eq_zero {run : ProjectRun} (closed : run.Closed) : run.pending = 0 := by
  rw [pending]
  rcases closed with dropped | resolved
  · simp [dropped]
  · have answered (group : OutputGroup) : (if (run.histories group).outcome?.isNone
        then (run.histories group).registered.length else 0) = 0 := by
      by_cases nothing : (run.histories group).registered = []
      · simp [nothing]
      · obtain ⟨outcome, isOutcome⟩ := Option.isSome_iff_exists.mp (resolved group nothing)
        simp [isOutcome]
    simp only [answered]
    simp [OutputGroup.all]

end ProjectRun

/-! ## Programs -/

/-- Projects and attempts to build series, with everything that has been measured. -/
structure Program where
  /-- Projects with their histories, in the order of their creation. -/
  runs : List ProjectRun := []
  /-- Attempts to build a series, and whether they succeeded. -/
  builds : List (SeriesKind × Bool) := []
  /-- What the collectors have been given. -/
  measurements : List Measurement := []

namespace Program

/-- One step of a program. -/
inductive Step (program : Program) : Program → Prop where
  | create (collectMetrics : Bool) :
      Step program { program with runs := program.runs ++ [.start collectMetrics] }
  | project {before after : List ProjectRun} {run next : ProjectRun}
      (isRun : program.runs = before ++ run :: after) {made : List Measurement}
      (step : run.MeasuredStep next made) :
      Step program { program with
        runs := before ++ next :: after
        measurements := program.measurements ++ made }
  | irregular {α : Type} [Sample α] (builder : SeriesBuilder α) :
      Step program { program with
        builds := program.builds ++ [(.irregular, builder.buildMeasured.1.isOk)]
        measurements := program.measurements ++ builder.buildMeasured.2 }
  | regular {α : Type} [Sample α] (builder : RegularBuilder α) :
      Step program { program with
        builds := program.builds ++ [(.regular, builder.buildMeasured.1.isOk)]
        measurements := program.measurements ++ builder.buildMeasured.2 }

/-- What a program comes to from nothing. -/
inductive Reachable : Program → Prop where
  | start : Reachable {}
  | step {before after : Program} (reachable : Reachable before) (step : Step before after) :
      Reachable after

/-- What a collector owes to attempts to build series. -/
def dueToBuilds (builds : List (SeriesKind × Bool)) : Collector → Nat
  | .seriesBuilt kind => builds.count (kind, true)
  | _ => 0

/-- What a collector owes to all projects and builds. -/
def due (program : Program) (collector : Collector) : Nat :=
  (program.runs.map fun run => run.due collector).sum + dueToBuilds program.builds collector

/-- Every project tallies, and every collector shows what it owes. -/
structure Balanced (program : Program) : Prop where
  tallied : ∀ run ∈ program.runs, run.Tallied
  total : ∀ collector : Collector,
    collector.total program.measurements = program.due collector

variable {program : Program}

theorem balanced_start : Balanced {} :=
  ⟨by simp, fun collector => by cases collector <;> rfl⟩

theorem dueToBuilds_append (first second : List (SeriesKind × Bool)) (collector : Collector) :
    dueToBuilds (first ++ second) collector
      = dueToBuilds first collector + dueToBuilds second collector := by
  cases collector with
  | seriesBuilt kind => exact List.count_append
  | pendingCells | cellsRegistered | resolutions | resolutionTimes => rfl

/-- An attempt is measured if it succeeds. -/
theorem total_ofBuild {α : Type} (kind : SeriesKind) (outcome : Except Error α)
    (collector : Collector) :
    collector.total (Measurement.ofBuild kind outcome)
      = dueToBuilds [(kind, outcome.isOk)] collector := by
  cases collector with
  | seriesBuilt other => cases outcome <;> cases kind <;> cases other <;> rfl
  | pendingCells | cellsRegistered | resolutions | resolutionTimes => cases outcome <;> rfl

theorem Balanced.build (balanced : program.Balanced) {α : Type} (kind : SeriesKind)
    (outcome : Except Error α) :
    Balanced { program with
      builds := program.builds ++ [(kind, outcome.isOk)]
      measurements := program.measurements ++ Measurement.ofBuild kind outcome } := by
  refine ⟨balanced.tallied, fun collector => ?_⟩
  rw [Collector.total_append, balanced.total, total_ofBuild, due, due, dueToBuilds_append]
  dsimp only
  omega

/-- Every step keeps the collectors at what they owe. -/
theorem Step.balanced {before after : Program} (step : Step before after)
    (balanced : before.Balanced) : after.Balanced := by
  cases step with
  | create collectMetrics =>
    refine ⟨fun run member => ?_, fun collector => ?_⟩
    · rcases List.mem_append.mp member with old | new
      · exact balanced.tallied run old
      · obtain rfl := List.mem_singleton.mp new
        exact ProjectRun.tallied_start collectMetrics
    · simp [balanced.total, due, ProjectRun.due_start]
  | @project prior later run next isRun made step =>
    have tallied := balanced.tallied
    rw [isRun] at tallied
    have keepsUp := step.keepsUp (tallied run (by simp))
    refine ⟨fun other member => ?_, fun collector => ?_⟩
    · rcases List.mem_append.mp member with earlier | member
      · exact tallied other (List.mem_append_left _ earlier)
      · rcases List.mem_cons.mp member with rfl | following
        · exact keepsUp.tallied
        · exact tallied other (List.mem_append_right _ (List.mem_cons_of_mem _ following))
    · -- The sum over all projects changes by the change of the one that moves.
      have change := keepsUp.total collector
      rw [Collector.total_append, balanced.total, due, due, isRun]
      simp only [List.map_append, List.map_cons, List.sum_append, List.sum_cons]
      omega
  | irregular builder => exact balanced.build .irregular builder.build
  | regular builder => exact balanced.build .regular builder.build

theorem Reachable.balanced (reachable : program.Reachable) : program.Balanced := by
  induction reachable with
  | start => exact balanced_start
  | step _ step ih => exact step.balanced ih

private theorem sum_map_ite_eq_countP {α : Type} (holds : α → Prop) [DecidablePred holds]
    (items : List α) :
    (items.map fun item => if holds item then 1 else 0).sum
      = items.countP fun item => holds item := by
  induction items with
  | nil => rfl
  | cons item rest ih => by_cases here : holds item <;> simp [here, ih, Nat.add_comm]

/-- After every step of any projects and builds in any order, the collectors account exactly. -/
theorem Reachable.accounting (reachable : program.Reachable) :
    Collector.pendingCells.total program.measurements
        = ((program.runs.map ProjectRun.pending).sum : Nat)
      ∧ 0 ≤ Collector.pendingCells.total program.measurements
      ∧ ((∀ run ∈ program.runs, run.Closed) →
        Collector.pendingCells.total program.measurements = 0)
      ∧ (∀ group kind, (Collector.cellsRegistered group kind).total program.measurements
        = ((program.runs.map fun run => run.registrations group kind).sum : Nat))
      ∧ (∀ group success, (Collector.resolutions group success).total program.measurements
        = program.runs.countP fun run => run.ResolvedAs group success)
      ∧ (∀ group, (Collector.resolutionTimes group).total program.measurements
        = (Collector.resolutions group true).total program.measurements
          + (Collector.resolutions group false).total program.measurements)
      ∧ ∀ kind, (Collector.seriesBuilt kind).total program.measurements
        = program.builds.count (kind, true) := by
  have total := reachable.balanced.total
  have pending : Collector.pendingCells.total program.measurements
      = ((program.runs.map ProjectRun.pending).sum : Nat) := by
    simp only [total, due, dueToBuilds, ProjectRun.due_pendingCells, Nat.add_zero]
  refine ⟨pending, by omega, fun closed => ?_, fun group kind => ?_, fun group success => ?_,
    fun group => ?_, fun kind => ?_⟩
  · rw [pending, List.map_congr_left fun run member => (closed run member).pending_eq_zero]
    simp
  · simp only [total, due, dueToBuilds, ProjectRun.due_cellsRegistered, Nat.add_zero]
  · simp only [total, due, dueToBuilds, ProjectRun.due_resolutions, Nat.add_zero,
      sum_map_ite_eq_countP]
  · simp only [total, due, dueToBuilds, ProjectRun.due_resolutionTimes, Nat.add_zero,
      List.sum_map_add, Int.natCast_add]
  · simp [total, due, dueToBuilds, ProjectRun.due_seriesBuilt]

/-- A call is given up and another one completed in one project, while a second one is dropped with
a result that nobody sent and a third one, which collects nothing, is dropped as well.  A series
without events is not built. -/
theorem Reachable.accounting_trace :
    let key : CellKey := ⟨.unbounded, .allData⟩
    let channel := (ProjectRun.start true).register .doubleScore key .channel
    let built := { channel with project := channel.project.build }
    let called := built.withCalls .doubleScore [.awaiting]
    let polled := called.poll .doubleScore 0
    let abandoned := polled.withCalls .doubleScore [.abandoned]
    let settled := abandoned.settle .doubleScore 0 (.interrupted .abandoned)
    let resumed := settled.withCalls .doubleScore [.abandoned, .awaiting]
    let completed := resumed.poll .doubleScore 1
    let other := (ProjectRun.start true).register .matrix key .channel
    let silent := (ProjectRun.start false).register .paired key (.ready (.ok SortedMap.empty))
    let early : Program :=
      { runs := [abandoned, other, silent]
        measurements := [.registered .doubleScore .channel, .registered .matrix .channel] }
    let late : Program :=
      { runs := [completed, { other with project := other.project.drop.1 },
          { silent with project := silent.project.drop.1 }]
        builds := [(.irregular, false)]
        measurements := early.measurements ++ [.resolved .doubleScore false, .released 1]
          ++ other.project.drop.2 ++ silent.project.drop.2 }
    early.Reachable ∧ Collector.pendingCells.total early.measurements = 2
      ∧ late.Reachable ∧ Collector.pendingCells.total late.measurements = 0
      ∧ (Collector.cellsRegistered .matrix .channel).total late.measurements = 1
      ∧ (Collector.cellsRegistered .paired .ready).total late.measurements = 0
      ∧ (Collector.resolutions .doubleScore false).total late.measurements = 1
      ∧ (Collector.seriesBuilt .irregular).total late.measurements = 0 := by
  intro key channel built called polled abandoned settled resumed completed other silent early late
  have move {before after : List ProjectRun} {run next : ProjectRun}
      {builds : List (SeriesKind × Bool)} {measurements made : List Measurement}
      (reachable : Reachable ⟨before ++ run :: after, builds, measurements⟩)
      (step : run.MeasuredStep next made) :
      Reachable ⟨before ++ next :: after, builds, measurements ++ made⟩ :=
    reachable.step (.project rfl step)
  have created : Reachable ⟨[.start true, .start true, .start false], [], []⟩ :=
    ((Reachable.start.step (.create true)).step (.create true)).step (.create false)
  have first : Reachable ⟨[channel, .start true, .start false], [],
      [.registered .doubleScore .channel]⟩ :=
    @move [] _ _ _ _ _ _ created (.register rfl .doubleScore key .channel)
  have second : Reachable ⟨[channel, other, .start false], [], early.measurements⟩ :=
    @move [channel] _ _ _ _ _ _ first (.register rfl .matrix key .channel)
  have third : Reachable ⟨[channel, other, silent], [], early.measurements⟩ :=
    @move [channel, other] _ _ _ _ _ _ second (.register rfl .paired key _)
  have asked : Reachable ⟨[called, other, silent], [], early.measurements⟩ :=
    @move [] _ _ _ _ _ _ (@move [] _ _ _ _ _ _ third .build) (.call rfl .doubleScore)
  have awaits : (polled.histories .doubleScore).calls[0]? = some .awaiting := rfl
  have isEarly : early.Reachable :=
    @move [] _ _ _ _ _ _ (@move [] _ _ _ _ _ _ asked (.poll rfl rfl)) (.abandon awaits)
  have isRegistered : (key, .channel 0) ∈ (abandoned.histories .doubleScore).registered :=
    List.mem_singleton_self _
  have resumes : Reachable ⟨[resumed, other, silent], [], early.measurements⟩ :=
    @move [] _ _ _ _ _ _ (@move [] _ _ _ _ _ _ isEarly (.settle isRegistered .dropped))
      (.call rfl .doubleScore)
  have awaitsAgain : (resumed.histories .doubleScore).calls[1]? = some .awaiting := rfl
  have completes : Reachable ⟨[completed, other, silent], [],
      early.measurements ++ [.resolved .doubleScore false, .released 1]⟩ :=
    @move [] _ _ _ _ _ _ resumes (.poll rfl awaitsAgain)
  have drops : Reachable ⟨late.runs, [], late.measurements⟩ :=
    @move [completed, _] _ _ _ _ _ _ (@move [completed] _ _ _ _ _ _ completes .drop) .drop
  have isLate : late.Reachable := drops.step (.irregular ({} : SeriesBuilder Binary64))
  have allClosed : ∀ run ∈ late.runs, run.Closed := by
    simp only [late, List.forall_mem_cons]
    refine ⟨.inr fun group registered => ?_, .inl rfl, .inl rfl, by simp⟩
    cases group with
    | doubleScore => rfl
    | durationScore | multiVector | matrix | boxPlot | paired => exact absurd rfl registered
  obtain ⟨pending, -⟩ := Reachable.accounting isEarly
  obtain ⟨-, -, closed, registrations, resolutions, -, builds⟩ := Reachable.accounting isLate
  exact ⟨isEarly, pending, isLate, closed allClosed, registrations _ _, registrations _ _,
    resolutions _ _, builds _⟩

end Program

end Forecast
