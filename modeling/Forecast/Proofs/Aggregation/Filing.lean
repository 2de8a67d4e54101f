import Forecast.Proofs.Aggregation.Runs
import Forecast.Proofs.Output.Filing

/-!
# Who names the metric of an output

Outputs are filed under the metrics that their deliverers name, whether they are handed to a builder
or registered with a project.  Nothing compares such a metric with the metadata of the output, or
its group with the shape.  Outputs of one metric are compared with each other, so all of them are of
the metric that they are filed under as soon as one of them is.
-/

namespace Forecast

variable {group : OutputGroup}

/-- Outputs of a settled result of a cell. -/
def Settlement.filings (result : CellKey × Settlement group) : List (Filing group) :=
  result.2.entries.map fun entry => (entry.1, result.1, entry.2)

namespace ShapeResults

variable {results : List (CellKey × Settlement group)}

theorem mem_filings_iff {metric : MetricKey} {key : CellKey} {output : Output group} :
    (metric, key, output) ∈ results.flatMap Settlement.filings ↔
      (metric, output) ∈ (under results key).flatMap Settlement.entries := by
  simp only [List.mem_flatMap, Settlement.filings, List.mem_map, Prod.mk.injEq, mem_under]
  constructor
  · rintro ⟨⟨_, settlement⟩, member, ⟨_, _⟩, isEntry, rfl, rfl, rfl⟩
    exact ⟨settlement, member, isEntry⟩
  · rintro ⟨settlement, member, isEntry⟩
    exact ⟨(key, settlement), member, (metric, output), isEntry, rfl, rfl, rfl⟩

/-- The output that counts is the last one of the metric in the results of the cell. -/
theorem winner?_eq (metric : MetricKey) (key : CellKey) :
    winner? (under results) metric key
      = (((under results key).flatMap Settlement.entries).reverse.find? fun entry =>
        entry.1 = metric).map Prod.snd := by
  rw [winner?, Settlement.findSome?_output?, SortedMap.ofList, SortedMap.get?_insertAll,
    SortedMap.get?_empty, Option.or_none]

theorem mem_filings_of_winner? {metric : MetricKey} {key : CellKey} {output : Output group}
    (counts : winner? (under results) metric key = some output) :
    (metric, key, output) ∈ results.flatMap Settlement.filings := by
  rw [winner?_eq, Option.map_eq_some_iff] at counts
  obtain ⟨⟨other, _⟩, isLast, rfl⟩ := counts
  obtain rfl : other = metric := by simpa using List.find?_some isLast
  exact mem_filings_iff.mpr (List.mem_reverse.mp (List.mem_of_find?_eq_some isLast))

theorem isSome_winner?_of_mem {metric : MetricKey} {key : CellKey} {output : Output group}
    (filed : (metric, key, output) ∈ results.flatMap Settlement.filings) :
    (winner? (under results) metric key).isSome := by
  rw [winner?_eq, Option.isSome_map, List.find?_isSome]
  exact ⟨(metric, output), List.mem_reverse.mpr (mem_filings_iff.mp filed), by simp⟩

theorem Stored.get?_store {multi : MultiStore group} (stored : Stored (under results) multi)
    {metric : MetricKey} {store : Store group} (has : multi.get? metric = some store)
    (key : CellKey) : store.get? key = winner? (under results) metric key := by
  rw [← stored.entry metric key, has]
  rfl

theorem Stored.exists_store {multi : MultiStore group} (stored : Stored (under results) multi)
    {metric : MetricKey} {key : CellKey} (counts : (winner? (under results) metric key).isSome) :
    ∃ store, multi.get? metric = some store := by
  obtain ⟨output, counts⟩ := Option.isSome_iff_exists.mp counts
  rw [← stored.entry metric key, Option.bind_eq_some_iff] at counts
  obtain ⟨store, has, -⟩ := counts
  exact ⟨store, has⟩

/-- The outputs that count are among those that the results hold. -/
theorem Stored.filedAs {multi : MultiStore group} (stored : Stored (under results) multi)
    (agree : ∀ metric, Agree (under results) metric) :
    multi.FiledAs (results.flatMap Settlement.filings) := by
  refine ⟨fun metric key output member => ?_, fun metric store has => ?_,
    fun metric store has key output found => ?_,
    fun metric store has first firstOutput second secondOutput isFirst isSecond => ?_⟩
  · have counts := isSome_winner?_of_mem member
    obtain ⟨store, has⟩ := stored.exists_store counts
    obtain ⟨other, isOther⟩ := Option.isSome_iff_exists.mp counts
    exact ⟨store, other, has, (stored.get?_store has key).trans isOther⟩
  · obtain ⟨key, output, isReference, -⟩ := stored.metadata metric store has
    exact ⟨key, output, (stored.get?_store has key).trans isReference.found⟩
  · rw [stored.get?_store has] at found
    exact mem_filings_of_winner? found
  · rw [stored.get?_store has] at isFirst isSecond
    exact agree metric first second firstOutput secondOutput isFirst isSecond

end ShapeResults

/-- What a project gives out is what the results registered for the shape hold. -/
theorem ProjectRun.Reachable.filedAs {run : ProjectRun} (reachable : run.Reachable)
    {multi : MultiStore group}
    (completed : .completed (.ok (some multi)) ∈ (run.histories group).calls) :
    ∃ results, ShapeGroup.SettledAs (run.project.shapes group).producers
        (run.histories group).registered results
      ∧ multi.FiledAs (results.flatMap Settlement.filings) := by
  have answered := (reachable.fits.shapes group).answered completed
  obtain ⟨results, settledAs, determine⟩ := ShapeGroup.map_resolve_eq_some_iff.mp answered
  refine ⟨results, settledAs, ?_⟩
  cases determine with
  | stored _ _ agree stored => exact stored.filedAs agree

namespace MultiStore

/-- One output, which is filed as a mean error while its metadata name another metric. -/
def wrongMetric : List (Delivery .doubleScore) :=
  [.single ⟨.meanError, none⟩ ⟨.unbounded, .allData⟩ ⟨Binary64.one, { metric := .biasFraction }⟩]

/-- One output, which lacks the component that its cell has it under. -/
def wrongComponent : List (Delivery .doubleScore) :=
  [.cell ⟨.unbounded, .allData⟩
    (.ofList [(⟨.brierScore, some .reliability⟩, ⟨Binary64.one, { metric := .brierScore }⟩)])]

/-- One score, which is filed under a metric of matrices. -/
def wrongGroup : List (Delivery .doubleScore) :=
  [.single ⟨.contingencyTable, none⟩ ⟨.unbounded, .allData⟩
    ⟨Binary64.one, { metric := .contingencyTable }⟩]

/-- A single output is accepted wherever it is filed. -/
theorem misfiled_accepted :
    (∃ multi, (MultiStoreBuilder.ofDeliveries wrongMetric).build = .ok multi
        ∧ ¬multi.OwnMetrics)
      ∧ (∃ multi, (MultiStoreBuilder.ofDeliveries wrongComponent).build = .ok multi
        ∧ ¬multi.OwnMetrics)
      ∧ ∃ multi, (MultiStoreBuilder.ofDeliveries wrongGroup).build = .ok multi
        ∧ ¬multi.OwnMetrics := by
  refine ⟨⟨_, rfl, fun own => ?_⟩, ⟨_, rfl, fun own => ?_⟩, ⟨_, rfl, fun own => ?_⟩⟩
  · have named := ((own ⟨.meanError, none⟩ _ rfl).2 ⟨.unbounded, .allData⟩ _ rfl).1
    cases named
  · have named :=
      ((own ⟨.brierScore, some .reliability⟩ _ rfl).2 ⟨.unbounded, .allData⟩ _ rfl).2
    cases named
  · have grouped := (own ⟨.contingencyTable, none⟩ _ rfl).1
    cases grouped

/-- Everything that a builder accepts or a project gives out is where its deliverer has filed it,
and the outputs of a metric agree.  So they are all of the metric that they are filed under just
when deliverers name metrics of the group only, and the right metric for one output of each. -/
theorem filed_as_delivered :
    (∀ (group : OutputGroup) (deliveries : List (Delivery group)) (multi : MultiStore group),
        (MultiStoreBuilder.ofDeliveries deliveries).build = .ok multi →
          multi.FiledAs (deliveries.flatMap Delivery.filings)
            ∧ (multi.OwnMetrics ↔ multi.Vouched (deliveries.flatMap Delivery.filings)))
      ∧ ∀ (run : ProjectRun), run.Reachable → ∀ (group : OutputGroup) (multi : MultiStore group),
        .completed (.ok (some multi)) ∈ (run.histories group).calls →
          ∃ results, ShapeGroup.SettledAs (run.project.shapes group).producers
              (run.histories group).registered results
            ∧ multi.FiledAs (results.flatMap Settlement.filings)
            ∧ (multi.OwnMetrics ↔ multi.Vouched (results.flatMap Settlement.filings)) := by
  refine ⟨fun group deliveries multi built => ?_, fun run reachable group multi completed => ?_⟩
  · have filedAs := filedAs_of_build built
    exact ⟨filedAs, filedAs.ownMetrics_iff⟩
  · obtain ⟨results, settledAs, filedAs⟩ := reachable.filedAs completed
    exact ⟨results, settledAs, filedAs, filedAs.ownMetrics_iff⟩

/-- A builder and a project that have both been given a mean error under the wrong metric keep it
there, and neither could have been vouched for. -/
theorem filed_as_delivered_wrongly :
    let metric : MetricKey := ⟨.meanError, none⟩
    let key : CellKey := ⟨.unbounded, .allData⟩
    let output : Output .doubleScore := ⟨Binary64.one, { metric := .biasFraction }⟩
    let multi : MultiStore .doubleScore :=
      ⟨.ofList [(metric, ⟨.ofList [(key, output)], output.metadata⟩)]⟩
    let registered := (ProjectRun.start true).register .doubleScore key
      (.ready (.ok (.ofList [(metric, output)])))
    let built := { registered with project := registered.project.build }
    let completed := (built.withCalls .doubleScore [.awaiting]).poll .doubleScore 0
    (MultiStoreBuilder.ofDeliveries wrongMetric).build = .ok multi
      ∧ multi.FiledAs [(metric, key, output)] ∧ ¬multi.Vouched [(metric, key, output)]
      ∧ completed.Reachable
      ∧ (completed.histories .doubleScore).calls = [.completed (.ok (some multi))]
      ∧ ∃ results, ShapeGroup.SettledAs (completed.project.shapes .doubleScore).producers
          (completed.histories .doubleScore).registered results
        ∧ multi.FiledAs (results.flatMap Settlement.filings)
        ∧ ¬multi.Vouched (results.flatMap Settlement.filings) := by
  intro metric key output multi registered built completed
  obtain ⟨ofBuilder, ofRuns⟩ := filed_as_delivered
  have misfiled : ¬multi.OwnMetrics := by
    intro own
    cases ((own metric _ rfl).2 key output rfl).1
  have built : (MultiStoreBuilder.ofDeliveries wrongMetric).build = .ok multi := rfl
  obtain ⟨filedAs, iff⟩ := ofBuilder .doubleScore wrongMetric multi built
  have reachable : completed.Reachable :=
    ((((ProjectRun.Reachable.start true).step (.register rfl .doubleScore key _)).step .build).step
      (.call rfl .doubleScore)).step (.poll rfl rfl)
  have calls : (completed.histories .doubleScore).calls = [.completed (.ok (some multi))] := rfl
  obtain ⟨results, settledAs, sameFiled, sameIff⟩ :=
    ofRuns completed reachable .doubleScore multi (calls ▸ List.mem_singleton_self _)
  exact ⟨built, filedAs, mt iff.mpr misfiled, reachable, calls, results, settledAs, sameFiled,
    mt sameIff.mpr misfiled⟩

end MultiStore

end Forecast
