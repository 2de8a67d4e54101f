import Forecast.Aggregation.ShapeGroup
import Forecast.Proofs.Aggregation.Resolution

/-!
# Registered cells

Registering results groups them by cell.  Once every registered result has settled, asking for the
outcome gives what the settled results determine; before that there is no answer.
-/

namespace Forecast

namespace ShapeGroup

variable {group : OutputGroup}

/-- Registered results by cell. -/
def filed (registered : List (CellKey × PendingCell group)) : PendingCells group :=
  SortedMap.group (fun cells cell => cells ++ [cell]) [] registered

theorem append_filed (registered : List (CellKey × PendingCell group)) (key : CellKey)
    (cell : PendingCell group) :
    append key cell (filed registered) = filed (registered ++ [(key, cell)]) := by
  rw [filed, filed, SortedMap.group_concat]
  rfl

theorem get?_filed (registered : List (CellKey × PendingCell group)) (key : CellKey) :
    ((filed registered).get? key).getD [] = under registered key := by
  have collected (before cells : List (PendingCell group)) :
      cells.foldl (fun cells cell => cells ++ [cell]) before = before ++ cells := by
    induction cells generalizing before with
    | nil => simp
    | cons cell rest ih => simp [ih]
  rw [filed, SortedMap.get?_group, collected]
  by_cases fresh : under registered key = [] <;> simp [fresh]

/-! ## Settled results -/

/-- Every registered result has settled, with these results. -/
def SettledAs (producers : List (Option (Settlement group)))
    (registered : List (CellKey × PendingCell group))
    (results : List (CellKey × Settlement group)) : Prop :=
  List.Forall₂ (fun registration result =>
      result.1 = registration.1 ∧ settlement? producers registration.2 = some result.2)
    registered results

theorem exists_settledAs_iff {producers : List (Option (Settlement group))}
    {registered : List (CellKey × PendingCell group)} :
    (∃ results, SettledAs producers registered results) ↔
      ∀ registration ∈ registered, (settlement? producers registration.2).isSome := by
  have settle (registration : CellKey × PendingCell group)
      (result : CellKey × Settlement group) :
      (result.1 = registration.1 ∧ settlement? producers registration.2 = some result.2) ↔
        (settlement? producers registration.2).map (fun settlement =>
          (registration.1, settlement)) = some result := by
    obtain ⟨key, settlement⟩ := result
    simp [eq_comm, and_comm]
  simp only [SettledAs, settle]
  rw [exists_forall₂_iff]
  simp

theorem settled?_eq_some_iff {producers : List (Option (Settlement group))}
    {cells : PendingCells group} {settled : SettledCells group} :
    settled? producers cells = some settled ↔
      cells.Alongside (fun _ pending settlements =>
        List.Forall₂ (fun cell settlement => settlement? producers cell = some settlement)
          pending settlements) settled := by
  simp only [settled?, SortedMap.traverse_eq_some_iff, mapM_eq_some_iff]

section

variable {producers : List (Option (Settlement group))}
  {registered : List (CellKey × PendingCell group)} {settled : SettledCells group}

/-- The results of a cell are those of its registrations in order. -/
theorem results_settled (isSettled : settled? producers (filed registered) = some settled)
    (key : CellKey) :
    List.Forall₂ (fun cell settlement => settlement? producers cell = some settlement)
      (under registered key) (settled.results key) := by
  have related := (settled?_eq_some_iff.mp isSettled).get?_rel key
  rw [← get?_filed, SettledCells.results]
  generalize (filed registered).get? key = pending, settled.get? key = found at related ⊢
  cases related with
  | none => exact .nil
  | some settles => exact settles

theorem results_eq_under (isSettled : settled? producers (filed registered) = some settled)
    {results : List (CellKey × Settlement group)}
    (settledAs : SettledAs producers registered results) : settled.results = under results := by
  funext key
  have underKey := forall₂_under
    (fun cell settlement => settlement? producers cell = some settlement) settledAs key
  exact forall₂_unique (results_settled isSettled key) underKey

/-- The cells have settled just when every registered result has. -/
theorem exists_settled_iff :
    (∃ settled, settled? producers (filed registered) = some settled) ↔
      ∃ results, SettledAs producers registered results := by
  rw [exists_settledAs_iff]
  constructor
  · -- Filing loses no registration: it is among the results of its own cell.
    rintro ⟨settled, isSettled⟩ ⟨key, cell⟩ member
    obtain ⟨settlement, -, found⟩ :=
      exists_of_mem_left (results_settled isSettled key) (mem_under.mpr member)
    rw [found]
    rfl
  · intro every
    have cells : ∀ entry ∈ (filed registered).entries, ∀ cell ∈ entry.2,
        (settlement? producers cell).isSome := by
      intro entry member cell inEntry
      have found := SortedMap.get?_eq_some_iff.mpr member
      have here := get?_filed registered entry.1
      rw [found, Option.getD_some] at here
      rw [here] at inEntry
      exact every (entry.1, cell) (mem_under.mp inEntry)
    rw [← Option.isSome_iff_exists, settled?, SortedMap.isSome_traverse_iff]
    exact fun entry member => isSome_mapM_iff.mpr (cells entry member)

/-- Once all results have settled, there is an outcome. -/
theorem exists_map_resolve {results : List (CellKey × Settlement group)}
    (settledAs : SettledAs producers registered results) :
    ∃ outcome, (settled? producers (filed registered)).map SettledCells.resolve = some outcome
      ∧ ShapeResults.Determine (under results) outcome := by
  obtain ⟨settled, isSettled⟩ := exists_settled_iff.mpr ⟨results, settledAs⟩
  refine ⟨settled.resolve, Option.map_eq_some_iff.mpr ⟨settled, isSettled, rfl⟩, ?_⟩
  rw [← results_eq_under isSettled settledAs]
  exact SettledCells.determine_resolve

/-- Filed cells resolve to what their settled results determine. -/
theorem map_resolve_eq_some_iff {outcome : Resolution group} :
    (settled? producers (filed registered)).map SettledCells.resolve = some outcome ↔
      ∃ results, SettledAs producers registered results
        ∧ ShapeResults.Determine (under results) outcome := by
  rw [Option.map_eq_some_iff]
  constructor
  · rintro ⟨settled, isSettled, rfl⟩
    obtain ⟨results, settledAs⟩ := exists_settled_iff.mp ⟨settled, isSettled⟩
    refine ⟨results, settledAs, ?_⟩
    rw [← results_eq_under isSettled settledAs]
    exact SettledCells.determine_resolve
  · rintro ⟨results, settledAs, determine⟩
    obtain ⟨settled, isSettled⟩ := exists_settled_iff.mpr ⟨results, settledAs⟩
    refine ⟨settled, isSettled, ?_⟩
    rw [← results_eq_under isSettled settledAs] at determine
    exact SettledCells.determine_resolve.unique determine

end

/-! ## Asking for the outcome -/

/-- Register results one after the other. -/
def registerAll (collect : Bool) (registered : List (CellKey × PendingCell group))
    (shape : ShapeGroup group) : ShapeGroup group :=
  registered.foldl
    (fun shape registration => (shape.register collect registration.1 registration.2).1) shape

theorem registerAll_eq (collect : Bool) (registered before : List (CellKey × PendingCell group))
    {shape : ShapeGroup group} (isFiled : shape.pending = filed before) :
    (registerAll collect registered shape).pending = filed (before ++ registered)
      ∧ (registerAll collect registered shape).producers = shape.producers
      ∧ (registerAll collect registered shape).join = shape.join := by
  induction registered generalizing before shape with
  | nil => simpa [registerAll] using isFiled
  | cons registration rest ih =>
    have next : (shape.register collect registration.1 registration.2).1.pending
        = filed (before ++ [registration]) := by
      rw [← append_filed, ← isFiled]
      rfl
    have later := ih (before ++ [registration]) next
    rw [List.append_assoc] at later
    exact later

/-- A shape that has not started to resolve answers just when its cells have settled. -/
theorem resolve_of_idle {shape : ShapeGroup group} (idle : shape.join = none) (collect : Bool) :
    (shape.resolve collect).2.1
      = (settled? shape.producers shape.pending).map SettledCells.resolve := by
  simp only [resolve, idle, poll]
  cases settled? shape.producers shape.pending <;> rfl

/-- Whatever is registered in whatever order, the outcome is the one that the settled results
determine. -/
theorem resolve_registered (collect : Bool) (producers : List (Option (Settlement group)))
    (registered : List (CellKey × PendingCell group))
    (results : List (CellKey × Settlement group))
    (settledAs : SettledAs producers registered results) :
    ∃ outcome, ((registerAll collect registered { producers }).resolve collect).2.1 = some outcome
      ∧ ∀ other, ShapeResults.Determine (under results) other ↔ other = outcome := by
  have start : ({ producers } : ShapeGroup group).pending = filed [] := rfl
  obtain ⟨pending, sameProducers, idle⟩ := registerAll_eq collect registered [] start
  rw [resolve_of_idle idle, pending, sameProducers, List.nil_append]
  obtain ⟨settled, isSettled⟩ := exists_settled_iff.mpr ⟨results, settledAs⟩
  have determine : ShapeResults.Determine (under results) settled.resolve := by
    rw [← results_eq_under isSettled settledAs]
    exact SettledCells.determine_resolve
  refine ⟨settled.resolve, by rw [isSettled]; rfl, fun other => ?_⟩
  constructor
  · intro isOther
    exact isOther.unique determine
  · rintro rfl
    exact determine

/-- Two cells with outputs of two metrics, the later cell registered first and twice.  If everything
succeeds, its second result replaces the first one's mean error and leaves the bias.  If a task has
panicked and a channel is abandoned, the cell of the task is named, since it is the lesser one. -/
theorem resolve_registered_abandoned :
    let early : CellKey := ⟨.unbounded, .allData⟩
    let late : CellKey := ⟨{ TimeWindow.unbounded with latestLead := ⟨Duration.second⟩ }, .allData⟩
    let output (metric : Metric) (value : Binary64) : Output .doubleScore := ⟨value, { metric }⟩
    let error (value : Binary64) : CellOutputs .doubleScore :=
      .ofList [(⟨.meanError, none⟩, output .meanError value)]
    let both : CellOutputs .doubleScore := .ofList [(⟨.meanError, none⟩, output .meanError .zero),
      (⟨.biasFraction, none⟩, output .biasFraction .one)]
    let registered := [(late, .ready (.ok both)), (late, .channel 0), (early, .task 1)]
    let results (channel task : Settlement .doubleScore) :=
      [(late, .outputs both), (late, channel), (early, task)]
    let resolved (channel task : Settlement .doubleScore) :=
      ((registerAll true registered { producers := [some channel, some task] }).resolve true).2.1
    let stores : MultiStore .doubleScore := ⟨.ofList
      [(⟨.biasFraction, none⟩, ⟨.ofList [(late, output .biasFraction .one)],
          { metric := .biasFraction }⟩),
        (⟨.meanError, none⟩, ⟨.ofList [(early, output .meanError .nan),
          (late, output .meanError .one)], { metric := .meanError }⟩)]⟩
    let panic : Failure := .panicked "task 2 panicked"
    (resolved (.outputs (error .one)) (.outputs (error .nan)) = some (.ok (some stores))
        ∧ ShapeResults.Determine (under (results (.outputs (error .one)) (.outputs (error .nan))))
          (.ok (some stores)))
      ∧ resolved (.interrupted .abandoned) (.failed panic)
        = some (.error (.cellFailed .doubleScore early panic))
      ∧ ShapeResults.Determine (under (results (.interrupted .abandoned) (.failed panic)))
          (.error (.cellFailed .doubleScore early panic)) := by
  intro early late output error both registered results resolved stores panic
  have determined {channel task : Settlement .doubleScore} {outcome : Resolution .doubleScore}
      (isOutcome : resolved channel task = some outcome) :
      ShapeResults.Determine (under (results channel task)) outcome := by
    obtain ⟨other, isOther, unique⟩ := resolve_registered true [some channel, some task] registered
      (results channel task) (.cons ⟨rfl, rfl⟩ (.cons ⟨rfl, rfl⟩ (.cons ⟨rfl, rfl⟩ .nil)))
    exact (unique outcome).mpr (Option.some.inj (isOutcome.symm.trans isOther))
  have stored : resolved (.outputs (error .one)) (.outputs (error .nan))
    = some (.ok (some stores)) := rfl
  have failed : resolved (.interrupted .abandoned) (.failed panic)
    = some (.error (.cellFailed .doubleScore early panic)) := rfl
  exact ⟨⟨stored, determined stored⟩, failed, determined failed⟩

end ShapeGroup

end Forecast
