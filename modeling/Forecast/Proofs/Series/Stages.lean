import Forecast.Proofs.Sample.Union
import Forecast.Proofs.Series.Merging
import Forecast.Proofs.Series.Reachable

/-!
# Merging in stages

Merging some series first and the result with further ones is merging all of them at once.  What
has been built stands for the series that it is built from: its issuances are gathered as theirs
would be, and it has metadata of a baseline to contribute only if one of them has.  A fault in the
first series is not mended by the others, since a gathered issuance only grows at its end.
-/

namespace Forecast

/-- Building some first and the result with the others is building all at once. -/
structure Stages {σ : Type} (merged : List σ → Except Error σ) (front back : List σ) : Prop where
  /-- All build the same as the others with what the first ones build. -/
  builds : ∀ whole, merged (front ++ back) = .ok whole ↔
    ∃ stage, merged front = .ok stage ∧ merged (stage :: back) = .ok whole
  /-- Where the first ones build, all are refused for the same reason. -/
  reports : ∀ stage, merged front = .ok stage →
    (merged (stage :: back)).mapError Error.report
      = (merged (front ++ back)).mapError Error.report

/-- What has been built stands for the first ones, and if they do not build then all do not. -/
theorem Stages.of_reports {σ : Type} {merged : List σ → Except Error σ} {front back : List σ}
    (needed : ∀ whole, merged (front ++ back) = .ok whole → ∃ stage, merged front = .ok stage)
    (reports : ∀ stage, merged front = .ok stage →
      (merged (stage :: back)).mapError Error.report
        = (merged (front ++ back)).mapError Error.report) : Stages merged front back := by
  have same {stage whole : σ} (built : merged front = .ok stage) :
      merged (stage :: back) = .ok whole ↔ merged (front ++ back) = .ok whole := by
    have report := reports stage built
    rw [← mapError_eq_ok_iff Error.report, report, mapError_eq_ok_iff]
  refine ⟨fun whole => ⟨fun all => ?_, ?_⟩, reports⟩
  · obtain ⟨stage, built⟩ := needed whole all
    exact ⟨stage, built, (same built).mpr all⟩
  · rintro ⟨stage, built, later⟩
    exact (same built).mp later

/-- The reports on faults in data tell the reports on faults in the input. -/
theorem report_congr {ρ : Type} {left right : Except DataError ρ}
    (same : left.mapError DataError.report = right.mapError DataError.report) :
    (left.mapError Error.invalidInput).mapError Error.report
      = (right.mapError Error.invalidInput).mapError Error.report := by
  have told (outcome : Except DataError ρ) :
      (outcome.mapError Error.invalidInput).mapError Error.report
        = (outcome.mapError DataError.report).mapError
          fun report => ("InvalidInput/" ++ report.1, "Invalid input: " ++ report.2) := by
    cases outcome <;> rfl
  rw [told, told, same]

/-! ## Issuances -/

namespace Issuance

variable {α : Type} [Sample α] {front back : List (Issuance α)}

/-- The first events of a valid issuance are valid. -/
theorem Valid.of_append {basis : Instant} {first others : List (Event α)}
    (valid : Valid ⟨basis, first ++ others⟩) (nonempty : first ≠ []) :
    Valid ⟨basis, first⟩ where
  nonempty := nonempty
  ascending := valid.ascending.sublist (List.sublist_append_left _ _)
  widths head isHead width hasWidth event member := by
    have isFirst : head ∈ (first ++ others).head? := by
      rwa [List.head?_append_of_ne_nil _ nonempty]
    exact valid.widths head isFirst width hasWidth event (List.mem_append_left _ member)

theorem valid_of_gather_append (valid : ∀ issuance ∈ gather (front ++ back), issuance.Valid)
    (events : ∀ issuance ∈ front, issuance.events ≠ []) :
    ∀ issuance ∈ gather front, issuance.Valid := by
  intro issuance member
  obtain ⟨known, gathered⟩ := mem_gather.mp member
  refine (valid _ (mem_gather_append member back)).of_append ?_
  rw [gathered]
  exact gatheredEvents_ne_nil events known

omit [Sample α] in
/-- Where every contribution has an event at one lead, issuances that repeat no lead have one
contribution each, so that the issuances of the first contributions are whole. -/
theorem gather_subset_of_append
    (distinct : ∀ issuance ∈ gather (front ++ back), issuance.leads.Nodup) {step : Duration}
    (starts : ∀ issuance ∈ front ++ back, step ∈ issuance.leads) :
    gather front ⊆ gather (front ++ back) := by
  intro issuance member
  have whole := mem_gather_append member back
  suffices alone : gatheredEvents back issuance.basis = [] by
    rwa [alone, List.append_nil] at whole
  obtain ⟨known, gathered⟩ := mem_gather.mp member
  obtain ⟨first, inFront, sameBasis⟩ := List.mem_map.mp known
  obtain ⟨early, inFirst, earlyLead⟩ :=
    List.mem_map.mp (starts first (List.mem_append_left _ inFront))
  have inEarly : early ∈ issuance.events := by
    rw [gathered, mem_gatheredEvents]
    exact ⟨first, inFront, sameBasis, inFirst⟩
  apply gatheredEvents_of_absent
  intro again
  obtain ⟨second, inBack, otherBasis⟩ := List.mem_map.mp again
  obtain ⟨late, inSecond, lateLead⟩ :=
    List.mem_map.mp (starts second (List.mem_append_right _ inBack))
  have inLate : late ∈ gatheredEvents back issuance.basis :=
    mem_gatheredEvents.mpr ⟨second, inBack, otherBasis, inSecond⟩
  -- Both events are at the given lead of one basis time, and no lead is repeated.
  have parts := distinct _ whole
  rw [leads, List.map_append, List.nodup_append] at parts
  apply parts.2.2 _ (List.mem_map_of_mem inEarly) _ (List.mem_map_of_mem inLate)
  rw [leadOf, sameBasis] at earlyLead
  rw [leadOf, otherBasis] at lateLead
  exact earlyLead.trans lateLead.symm

end Issuance

/-! ## Series -/

/-- Builders that hold the same are refused for the same reason, if their metadata are. -/
theorem SeriesBuilder.assemble_report {α : Type} [Sample α] {left right : SeriesBuilder α}
    (main : left.main = right.main) (baseline : left.baseline = right.baseline)
    (climatology : left.climatology = right.climatology)
    (metadata : (SampleMetadata.resolve left.metadata).mapError DataError.report
      = (SampleMetadata.resolve right.metadata).mapError DataError.report)
    (baselineMetadata : (SampleMetadata.resolve left.baselineMetadata).mapError DataError.report
      = (SampleMetadata.resolve right.baselineMetadata).mapError DataError.report) :
    left.assemble.mapError DataError.report = right.assemble.mapError DataError.report := by
  have same : left.toSeries = right.toSeries := by
    funext metadata baselineMetadata
    rw [toSeries, toSeries, main, baseline, climatology]
  rw [assemble_eq, assemble_eq, main, baseline, same]
  cases right.main.isEmpty with
  | true => rfl
  | false =>
    simp only [Bool.false_eq_true, if_false, mapError_bind, metadata, baselineMetadata]

namespace TimeSeries

variable {α : Type} [Sample α] {front back : List (TimeSeries α)}

/-- The first series build if all do. -/
theorem exists_merged_of_append (nonempty : front ≠ [])
    (sound : ∀ series ∈ front, series.Sound) {whole : TimeSeries α}
    (all : merged (front ++ back) = .ok whole) : ∃ stage, merged front = .ok stage := by
  rw [merged_eq_ok_iff, SeriesBuilder.holding_merge] at all
  obtain ⟨-, main, baseline, _, metadata, _, baselineMetadata, -⟩ :=
    SeriesBuilder.assemble_eq_ok_iff.mp all
  simp only [List.flatMap_append, List.map_append, List.filterMap_append] at *
  have mainEvents : ∀ issuance ∈ front.flatMap issuances, issuance.events ≠ [] := by
    intro issuance member
    obtain ⟨series, inFront, inMain⟩ := List.mem_flatMap.mp member
    exact ((sound series inFront).main.every issuance inMain).nonempty
  have baselineEvents : ∀ issuance ∈ front.flatMap baselineIssuances, issuance.events ≠ [] := by
    intro issuance member
    obtain ⟨series, inFront, inBaseline⟩ := List.mem_flatMap.mp member
    have issued : issuance ∈ series.everyIssuance := List.mem_append_right _ inBaseline
    exact ((sound series inFront).of_mem_everyIssuance issued).nonempty
  obtain ⟨frontMetadata, resolved⟩ := SampleMetadata.resolve_eq_ok_iff.mpr
    ((SampleMetadata.resolve_eq_ok_iff.mp ⟨_, metadata⟩).of_append)
  obtain ⟨frontBaseline, baselineResolved⟩ := SampleMetadata.resolve_eq_ok_iff.mpr
    ((SampleMetadata.resolve_eq_ok_iff.mp ⟨_, baselineMetadata⟩).of_append)
  simp only [merged_eq_ok_iff, SeriesBuilder.holding_merge, SeriesBuilder.assemble_eq_ok_iff]
  exact ⟨_, gather_issuances_ne_nil nonempty sound,
    Issuance.valid_of_gather_append main mainEvents,
    Issuance.valid_of_gather_append baseline baselineEvents, _, resolved, _, baselineResolved, rfl⟩

/-- A series that has been built stands for those that it is built from. -/
theorem IsMerged.assemble_report {stage : TimeSeries α} (isMerged : stage.IsMerged front)
    (back : List (TimeSeries α)) :
    (SeriesBuilder.holding ((stage :: back).map .merge)).assemble.mapError DataError.report
      = (SeriesBuilder.holding ((front ++ back).map .merge)).assemble.mapError
        DataError.report := by
  have main : Issuance.gather ((stage :: back).flatMap TimeSeries.issuances)
      = Issuance.gather ((front ++ back).flatMap TimeSeries.issuances) := by
    rw [List.flatMap_cons, List.flatMap_append, isMerged.issuances, Issuance.gather_gather_append]
  have baseline : Issuance.gather ((stage :: back).flatMap TimeSeries.baselineIssuances)
      = Issuance.gather ((front ++ back).flatMap TimeSeries.baselineIssuances) := by
    rw [List.flatMap_cons, List.flatMap_append, isMerged.baselineIssuances,
      Issuance.gather_gather_append]
  have climatology : (stage :: back).findSome? TimeSeries.climatology
      = (front ++ back).findSome? TimeSeries.climatology := by
    rw [List.findSome?_append, ← isMerged.climatology, List.findSome?_cons]
    cases stage.climatology <;> rfl
  have metadata := SampleMetadata.resolve_append_report isMerged.metadata
    (back.map TimeSeries.metadata)
  have baselineMetadata := SampleMetadata.resolve_append_report isMerged.baselineMetadata
    (back.filterMap givenBaselineMetadata?)
  rw [← List.map_append] at metadata
  rw [← List.filterMap_append] at baselineMetadata
  rw [SeriesBuilder.holding_merge, SeriesBuilder.holding_merge]
  refine SeriesBuilder.assemble_report main baseline climatology metadata ?_
  rw [← baselineMetadata]
  cases given : stage.givenBaselineMetadata? <;> simp [given]

omit [Sample α] in
/-- Where all issuances have an event at one lead, and none has two, those of the first series are
whole. -/
theorem IsMerged.everyIssuance_subset {stage whole : TimeSeries α}
    (isStage : stage.IsMerged front) (isWhole : whole.IsMerged (front ++ back))
    (distinct : ∀ issuance ∈ whole.everyIssuance, issuance.leads.Nodup) {step : Duration}
    (starts : ∀ series ∈ front ++ back, ∀ issuance ∈ series.everyIssuance, step ∈ issuance.leads) :
    stage.everyIssuance ⊆ whole.everyIssuance := by
  have part {view : TimeSeries α → List (Issuance α)}
      (within : ∀ series : TimeSeries α, view series ⊆ series.everyIssuance)
      (stageView : view stage = Issuance.gather (front.flatMap view))
      (wholeView : view whole = Issuance.gather ((front ++ back).flatMap view)) :
      view stage ⊆ view whole := by
    rw [stageView, wholeView, List.flatMap_append]
    apply Issuance.gather_subset_of_append
    · rw [← List.flatMap_append, ← wholeView]
      exact fun issuance member => distinct issuance (within _ member)
    · rw [← List.flatMap_append]
      intro issuance member
      obtain ⟨series, given, inView⟩ := List.mem_flatMap.mp member
      exact starts series given issuance (within series inView)
  have main : stage.issuances ⊆ whole.issuances :=
    part (fun _ => List.subset_append_left _ _) isStage.issuances isWhole.issuances
  have baseline : stage.baselineIssuances ⊆ whole.baselineIssuances :=
    part (fun _ => List.subset_append_right _ _) isStage.baselineIssuances
      isWhole.baselineIssuances
  exact List.append_subset.mpr
    ⟨List.subset_append_of_subset_left _ main, List.subset_append_of_subset_right _ baseline⟩

/-- Reachable series are merged in stages as they are merged at once. -/
theorem stages_merged (nonempty : front ≠ []) (sound : ∀ series ∈ front, series.Sound)
    (back : List (TimeSeries α)) : Stages merged front back := by
  apply Stages.of_reports
  · exact fun whole => exists_merged_of_append nonempty sound
  · intro stage built
    rw [merged, merged, build_eq, build_eq]
    exact report_congr ((IsMerged.of_merged sound built).assemble_report back)

end TimeSeries

/-! ## Regular series -/

/-- Data that are refused for the same reason are so as a regular series, too. -/
theorem RegularBuilder.build_report {α : Type} [Sample α] {left right : SeriesBuilder α}
    (same : left.assemble.mapError DataError.report = right.assemble.mapError DataError.report)
    (step : Duration) :
    (build ⟨left, some step⟩).mapError Error.report
      = (build ⟨right, some step⟩).mapError Error.report := by
  rw [build_eq, build_eq]
  split
  · rfl
  · rw [mapError_bind, mapError_bind, report_congr same]

namespace RegularSeries

variable {α : Type} [Sample α] {front back : List (RegularSeries α)}

/-- The step is the first lead of every issuance. -/
theorem Steady.step_mem_leads {regular : RegularSeries α} (steady : regular.Steady)
    {issuance : Issuance α} (member : issuance ∈ regular.series.everyIssuance) :
    regular.step ∈ issuance.leads := by
  obtain ⟨count, onSteps⟩ := steady.even
  rw [onSteps issuance member, Duration.mem_multiples]
  exact ⟨1, le_refl 1, onSteps.one_le steady.sound, Duration.times_one _⟩

/-- The first series build if all do. -/
theorem exists_merged_of_append {first : RegularSeries α} {rest back : List (RegularSeries α)}
    (steady : ∀ regular ∈ first :: (rest ++ back), regular.Steady) {whole : RegularSeries α}
    (all : merged (first :: (rest ++ back)) = .ok whole) :
    ∃ stage, merged (first :: rest) = .ok stage := by
  obtain ⟨same, step, wholeBuilt, positive, count, onSteps⟩ := merged_eq_ok_iff.mp all
  have sound : ∀ merged ∈ (first :: (rest ++ back)).map series, merged.Sound :=
    List.forall_mem_map.mpr fun regular member => (steady regular member).sound
  have starts : ∀ merged ∈ (first :: (rest ++ back)).map series,
      ∀ issuance ∈ merged.everyIssuance, whole.step ∈ issuance.leads := by
    refine List.forall_mem_map.mpr fun regular given issuance member => ?_
    have sameStep : regular.step = whole.step := by
      rcases List.mem_cons.mp given with rfl | later
      · exact step.symm
      · exact (same regular later).trans step.symm
    rw [← sameStep]
    exact (steady regular given).step_mem_leads member
  rw [← List.cons_append, List.map_append] at wholeBuilt sound starts
  have frontSound : ∀ merged ∈ (first :: rest).map series, merged.Sound :=
    fun merged member => sound merged (List.mem_append_left _ member)
  obtain ⟨stage, stageBuilt⟩ :=
    TimeSeries.exists_merged_of_append (by simp) frontSound wholeBuilt
  -- The first ones might be off the steps while all are on them, if issuances were still to grow.
  have stageMerged := TimeSeries.IsMerged.of_merged frontSound stageBuilt
  have wholeMerged := TimeSeries.IsMerged.of_merged sound wholeBuilt
  have distinct : ∀ issuance ∈ whole.series.everyIssuance, issuance.leads.Nodup :=
    fun issuance member => (onSteps.leadsAscend positive issuance member).nodup
  have kept := stageMerged.everyIssuance_subset wholeMerged distinct starts
  refine ⟨⟨stage, whole.step⟩, merged_eq_ok_iff.mpr ⟨?_, step, stageBuilt, positive, count, ?_⟩⟩
  · exact fun regular member => same regular (List.mem_append_left _ member)
  · exact fun issuance member => onSteps issuance (kept member)

/-- The step of the first series is the step of what they build. -/
theorem mergeAll_append {first stage : RegularSeries α} {rest : List (RegularSeries α)}
    (built : merged (first :: rest) = .ok stage) (back : List (RegularSeries α)) :
    RegularBuilder.mergeAll {} (first :: (rest ++ back)) =
      match back.find? fun regular => regular.step != stage.step with
      | some other => .error (.invalidInput (.timeStepMismatch stage.step other.step))
      | none => .ok
          { inner := .holding (((first :: (rest ++ back)).map series).map .merge)
            step := some stage.step } := by
  obtain ⟨same, step, -⟩ := merged_eq_ok_iff.mp built
  have fits : rest.find? (fun regular => regular.step != first.step) = none := by
    simpa [List.find?_eq_none] using same
  have all := RegularBuilder.mergeAll_cons first (rest ++ back)
  rw [List.find?_append, fits, Option.none_or, ← step] at all
  exact all

theorem stages_merged (nonempty : front ≠ [])
    (steady : ∀ regular ∈ front ++ back, regular.Steady) : Stages merged front back := by
  obtain ⟨first, rest, rfl⟩ := List.exists_cons_of_ne_nil nonempty
  apply Stages.of_reports
  · exact fun whole => exists_merged_of_append steady
  · intro stage built
    obtain ⟨same, step, seriesBuilt, -⟩ := merged_eq_ok_iff.mp built
    have sound : ∀ merged ∈ (first :: rest).map series, merged.Sound :=
      List.forall_mem_map.mpr fun regular member =>
        (steady regular (List.mem_append_left _ member)).sound
    have assembled := (TimeSeries.IsMerged.of_merged sound seriesBuilt).assemble_report
      (back.map series)
    rw [List.cons_append, merged, merged, RegularBuilder.mergeAll_cons, mergeAll_append built]
    cases back.find? fun regular => regular.step != stage.step with
    | some other => rfl
    | none =>
      rw [← List.map_append] at assembled
      exact RegularBuilder.build_report assembled stage.step

/-- Steps are refused in stages as they are refused at once. -/
structure StagedSteps (front back : List (RegularSeries α)) : Prop where
  /-- What all build has the step of every one. -/
  shared : ∀ whole, merged (front ++ back) = .ok whole →
    ∀ regular ∈ front ++ back, regular.step = whole.step
  /-- Merging is refused only for a step that differs from the first. -/
  mismatch : ∀ error, RegularBuilder.mergeAll {} (front ++ back) = .error error →
    ∃ first ∈ front ++ back, ∃ other ∈ front ++ back, other.step ≠ first.step
      ∧ error = .invalidInput (.timeStepMismatch first.step other.step)
  /-- A step that is refused among the first ones is refused among all. -/
  early : ∀ error, RegularBuilder.mergeAll {} front = .error error →
    RegularBuilder.mergeAll {} (front ++ back) = .error error
  /-- Behind what the first ones build, the same step is refused as behind them. -/
  late : ∀ stage, merged front = .ok stage → ∀ error,
    RegularBuilder.mergeAll {} (stage :: back) = .error error ↔
      RegularBuilder.mergeAll {} (front ++ back) = .error error

theorem stagedSteps (nonempty : front ≠ []) (back : List (RegularSeries α)) :
    StagedSteps front back := by
  obtain ⟨first, rest, rfl⟩ := List.exists_cons_of_ne_nil nonempty
  refine ⟨?_, ?_, ?_, ?_⟩
  · intro whole all
    obtain ⟨same, step, -⟩ := merged_eq_ok_iff.mp all
    rw [step]
    exact List.forall_mem_cons.mpr ⟨rfl, same⟩
  · intro error refused
    rw [List.cons_append, RegularBuilder.mergeAll_cons] at refused
    cases found : (rest ++ back).find? fun regular => regular.step != first.step with
    | none =>
      rw [found] at refused
      cases refused
    | some other =>
      rw [found] at refused
      have member : other ∈ rest ++ back := List.mem_of_find?_eq_some found
      have differs : other.step ≠ first.step := by simpa using List.find?_some found
      exact ⟨first, List.mem_cons_self, other, List.mem_cons_of_mem _ member, differs,
        (Except.error.inj refused).symm⟩
  · intro error refused
    rw [RegularBuilder.mergeAll, List.foldlM_append]
    exact congrArg (· >>= _) refused
  · intro stage built error
    rw [List.cons_append, RegularBuilder.mergeAll_cons, mergeAll_append built]
    cases back.find? fun regular => regular.step != stage.step <;> simp

end RegularSeries

/-- Reachable series are merged in stages as they are merged at once, and so are reachable regular
series, whose steps are refused in stages as they are at once. -/
theorem merged_in_stages {α : Type} [Sample α] :
    (∀ front back : List (TimeSeries α), front ≠ [] →
      (∀ series ∈ front ++ back, series.Reachable) → Stages TimeSeries.merged front back)
    ∧ ∀ front back : List (RegularSeries α), front ≠ [] →
      (∀ regular ∈ front ++ back, regular.Reachable) →
        Stages RegularSeries.merged front back ∧ RegularSeries.StagedSteps front back := by
  constructor
  · intro front back nonempty reachable
    apply TimeSeries.stages_merged nonempty
    exact fun series member => (reachable series (List.mem_append_left _ member)).sound
  · intro front back nonempty reachable
    refine ⟨?_, RegularSeries.stagedSteps nonempty back⟩
    apply RegularSeries.stages_merged nonempty
    exact fun regular member => (reachable regular member).steady

/-- A forecast of one event, and metadata for a baseline that it lacks. -/
def unpaired (basis : Int) : List (Contribution Binary64) :=
  [.events (.zeros basis [basis + 5]), .baselineMetadata { unit := "m" }]

/-- A forecast of one event that is its own baseline. -/
def paired (basis : Int) : List (Contribution Binary64) :=
  let issuance : Issuance Binary64 := .zeros basis [basis + 5]
  [.events issuance, .baseline issuance]

theorem merged_in_stages_unpaired :
    ∃ first second third : RegularSeries Binary64,
      TimeSeries.build (unpaired 0) = .ok first.series
        ∧ TimeSeries.build (unpaired 10) = .ok second.series
        ∧ TimeSeries.build (paired 20) = .ok third.series
        ∧ Stages TimeSeries.merged [first.series, second.series] [third.series]
        ∧ Stages RegularSeries.merged [first, second] [third]
        ∧ ∃ stage whole, RegularSeries.merged [first, second] = .ok stage
          ∧ RegularSeries.merged [stage, third] = .ok whole
          ∧ stage.series.baselineMetadata = {} ∧ whole.series.hasBaseline = true := by
  have first : TimeSeries.Reachable _ := .build (rfl : TimeSeries.build (unpaired 0) = .ok _)
  have second : TimeSeries.Reachable _ := .build (rfl : TimeSeries.build (unpaired 10) = .ok _)
  have third : TimeSeries.Reachable _ := .build (rfl : TimeSeries.build (paired 20) = .ok _)
  have firstRegular : RegularSeries.Reachable ⟨_, _⟩ := .ofSeries first ⟨5⟩ rfl
  have secondRegular : RegularSeries.Reachable ⟨_, _⟩ := .ofSeries second ⟨5⟩ rfl
  have thirdRegular : RegularSeries.Reachable ⟨_, _⟩ := .ofSeries third ⟨5⟩ rfl
  have stages := merged_in_stages.1 [_, _] [_] (by simp)
    (List.forall_mem_cons.mpr ⟨first, List.forall_mem_cons.mpr ⟨second,
      List.forall_mem_singleton.mpr third⟩⟩)
  have regularStages := (merged_in_stages.2 [_, _] [_] (by simp)
    (List.forall_mem_cons.mpr ⟨firstRegular, List.forall_mem_cons.mpr ⟨secondRegular,
      List.forall_mem_singleton.mpr thirdRegular⟩⟩)).1
  exact ⟨⟨_, _⟩, ⟨_, _⟩, ⟨_, _⟩, rfl, rfl, rfl, stages, regularStages, _, _, rfl, rfl, rfl, rfl⟩

end Forecast
