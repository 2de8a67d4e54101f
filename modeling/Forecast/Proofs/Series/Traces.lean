import Forecast.Proofs.Series.BasisRoundTrip
import Forecast.Proofs.Series.Reachable

/-!
# Walking by trace

An ensemble series is taken apart into the traces of its members, issuance by issuance.  The walk
counts issuances and members, and what is ahead of it is read off the two counts.  The search for
the next member passes over the issuances that have none left, one after the other, so it ends.
-/

namespace Forecast

/-! ## Members ahead -/

namespace Issuance

/-- Members of issuances, issuance by issuance and by ascending index. -/
def everyMember (issuances : List (Issuance EnsemblePair)) : List (Issuance EnsemblePair × Nat) :=
  issuances.flatMap fun issuance => (List.range issuance.width).map fun member => (issuance, member)

/-- Members of issuances, without those of the first one below an index. -/
def membersFrom (member : Nat) : List (Issuance EnsemblePair) → List (Issuance EnsemblePair × Nat)
  | [] => []
  | issuance :: rest =>
      (List.range' member (issuance.width - member)).map (fun member => (issuance, member))
        ++ everyMember rest

theorem membersFrom_zero (issuances : List (Issuance EnsemblePair)) :
    membersFrom 0 issuances = everyMember issuances := by
  cases issuances with
  | nil => rfl
  | cons issuance rest =>
    rw [membersFrom, Nat.sub_zero, ← List.range_eq_range']
    rfl

variable {issuance : Issuance EnsemblePair} {rest : List (Issuance EnsemblePair)} {member : Nat}

theorem membersFrom_of_lt (below : member < issuance.width) :
    membersFrom member (issuance :: rest)
      = (issuance, member) :: membersFrom (member + 1) (issuance :: rest) := by
  have left : issuance.width - member = issuance.width - (member + 1) + 1 := by omega
  rw [membersFrom, left, List.range'_succ]
  rfl

theorem membersFrom_of_le (past : issuance.width ≤ member) :
    membersFrom member (issuance :: rest) = membersFrom 0 rest := by
  rw [membersFrom, Nat.sub_eq_zero_of_le past, membersFrom_zero]
  rfl

theorem mem_everyMember {issuances : List (Issuance EnsemblePair)} :
    (issuance, member) ∈ everyMember issuances
      ↔ issuance ∈ issuances ∧ member < issuance.width := by
  simp only [everyMember, List.mem_flatMap, List.mem_map, List.mem_range, Prod.mk.injEq]
  constructor
  · rintro ⟨_, inIssuances, _, below, rfl, rfl⟩
    exact ⟨inIssuances, below⟩
  · rintro ⟨inIssuances, below⟩
    exact ⟨issuance, inIssuances, member, below, rfl, rfl⟩

/-- There are as many members as the widths add up to. -/
theorem length_everyMember (issuances : List (Issuance EnsemblePair)) :
    (everyMember issuances).length
      = issuances.foldl (fun total issuance => total + issuance.width) 0 := by
  rw [everyMember, List.length_flatMap, ← List.foldl_map, ← List.sum_eq_foldl]
  simp

end Issuance

namespace TraceCursor

open Cursor (Foresees)
open Issuance (everyMember membersFrom)

variable {issuances : List (Issuance EnsemblePair)} {position member : Nat}

theorem membersFrom_of_seek_eq_none (sought : seek issuances position member = none) :
    membersFrom member issuances = [] := by
  induction issuances generalizing position member with
  | nil => rfl
  | cons first rest ih =>
    rw [seek] at sought
    split at sought
    · cases sought
    · rename_i past
      rw [Issuance.membersFrom_of_le (Nat.le_of_not_lt past)]
      exact ih sought

/-- The search stops at the first member that is ahead, and the others are ahead of it. -/
theorem membersFrom_of_seek_eq_some {all : List (Issuance EnsemblePair)}
    (ahead : all.drop position = issuances) {issuance : Issuance EnsemblePair}
    {position' member' : Nat}
    (sought : seek issuances position member = some (issuance, position', member')) :
    membersFrom member issuances
      = (issuance, member') :: membersFrom (member' + 1) (all.drop position') := by
  induction issuances generalizing position member with
  | nil => cases sought
  | cons first rest ih =>
    rw [seek] at sought
    split at sought
    · rename_i below
      cases sought
      rw [ahead, Issuance.membersFrom_of_lt below]
    · rename_i past
      have behind : all.drop (position + 1) = rest := by
        rw [← List.tail_drop, ahead, List.tail_cons]
      rw [Issuance.membersFrom_of_le (Nat.le_of_not_lt past)]
      exact ih behind sought

/-- The members whose traces are still to come. -/
def ahead (place : TraceCursor) : List (Issuance EnsemblePair × Nat) :=
  membersFrom place.member (place.regular.series.issuances.drop place.position)

/-- A step takes the trace of the first member ahead, and no other member. -/
theorem next_eq (place : TraceCursor) :
    place.next.1 = (place.ahead.map fun (issuance, member) =>
        place.regular.trace issuance member).head?
      ∧ place.next.2.ahead = place.ahead.tail ∧ place.next.2.regular = place.regular
      ∧ (place.remaining = place.ahead.length →
        place.next.2.remaining = place.ahead.tail.length) := by
  rw [TraceCursor.next]
  cases sought : seek (place.regular.series.issuances.drop place.position) place.position
      place.member with
  | none =>
    have noneAhead : place.ahead = [] := membersFrom_of_seek_eq_none sought
    rw [noneAhead]
    refine ⟨rfl, ?_, rfl, id⟩
    rw [ahead, List.drop_length]
    rfl
  | some found =>
    obtain ⟨issuance, position, member⟩ := found
    have isAhead : place.ahead = (issuance, member) :: _ := membersFrom_of_seek_eq_some rfl sought
    rw [isAhead]
    exact ⟨rfl, rfl, rfl, fun announced => congrArg (· - 1) announced⟩

/-- The walk through a series has the traces of the members ahead. -/
theorem foresees (regular : RegularSeries EnsemblePair) : Foresees
    (fun place : TraceCursor => place.regular = regular ∧ place.remaining = place.ahead.length)
    fun place => place.ahead.map fun (issuance, member) => regular.trace issuance member where
  stays {place} within := by
    obtain ⟨-, rest, same, announced⟩ := place.next_eq
    exact ⟨same.trans within.1, (announced within.2).trans (congrArg _ rest.symm)⟩
  item {place} within := by
    obtain ⟨rfl, -⟩ := within
    exact place.next_eq.1
  rest {place} _ := (congrArg _ place.next_eq.2.1).trans List.map_tail
  announced within := within.2.trans (List.length_map _).symm

end TraceCursor

/-- The walk by trace gives the trace of every member. -/
theorem RegularSeries.gives_byTrace (regular : RegularSeries EnsemblePair) :
    Cursor.Gives regular.byTrace
      ((Issuance.everyMember regular.series.issuances).map fun (issuance, member) =>
        regular.trace issuance member) := by
  have start : regular.byTrace.ahead = Issuance.everyMember regular.series.issuances :=
    Issuance.membersFrom_zero regular.series.issuances
  have announced : regular.byTrace.remaining = regular.byTrace.ahead.length := by
    rw [start, Issuance.length_everyMember]
    rfl
  have gives : Cursor.Gives regular.byTrace _ :=
    (TraceCursor.foresees regular).gives ⟨rfl, announced⟩
  rwa [start] at gives

/-! ## Items -/

theorem EnsemblePair.trace?_eq_some_iff {pair : EnsemblePair} {member : Nat}
    {single : SinglePair} :
    pair.trace? member = some single ↔
      single.left = pair.left ∧ pair.members[member]? = some single.right := by
  obtain ⟨left, right⟩ := single
  simp only [trace?, Option.map_eq_some_iff, SinglePair.mk.injEq]
  constructor
  · rintro ⟨value, found, rfl, rfl⟩
    exact ⟨rfl, found⟩
  · rintro ⟨rfl, found⟩
    exact ⟨right, found, rfl, rfl⟩

namespace Issuance

/-- The trace of a member has one event per event of the issuance, at the same time, with the
observation and the prediction of the member. -/
structure IsTrace (issuance : Issuance EnsemblePair) (member : Nat)
    (traced : Issuance SinglePair) : Prop where
  basis : traced.basis = issuance.basis
  events : List.Forall₂ (fun old new => new.time = old.time ∧ new.value.left = old.value.left
      ∧ old.value.members[member]? = some new.value.right)
    issuance.events traced.events

theorem Sound.isTrace {issuance : Issuance EnsemblePair} (sound : issuance.Sound) {member : Nat}
    (below : member < issuance.width) :
    issuance.IsTrace member ⟨issuance.basis, issuance.trace member⟩ where
  basis := rfl
  events := (sound.forall₂_trace below).imp fun _ _ traced =>
    ⟨traced.1, EnsemblePair.trace?_eq_some_iff.mp traced.2⟩

end Issuance

namespace RegularSeries

/-- An item of the walk by trace is the trace of a member of an issuance, with the same trace of the
issuance of the baseline at the same time if it has the member. -/
structure IsTrace (regular : RegularSeries EnsemblePair) (issuance : Issuance EnsemblePair)
    (member : Nat) (item : RegularSeries SinglePair) : Prop where
  step : item.step = regular.step
  metadata : item.series.metadata = regular.series.metadata
  baselineMetadata : item.series.baselineMetadata = regular.series.baselineMetadata
  climatology : item.series.climatology = regular.series.climatology
  main : ∃ traced, issuance.IsTrace member traced ∧ item.series.content.main = [traced]
  baseline : ∀ issued ∈ regular.series.baselineIssuances, issued.basis = issuance.basis →
    member < issued.width →
      ∃ traced, issued.IsTrace member traced ∧ item.series.content.baseline = some [traced]
  noBaseline : (∀ issued ∈ regular.series.baselineIssuances, issued.basis = issuance.basis →
    issued.width ≤ member) → item.series.content.baseline = none

/-- The baseline of a trace is that of the issuance of the baseline at the same time. -/
theorem baseline_trace (regular : RegularSeries EnsemblePair) (issuance : Issuance EnsemblePair)
    (member : Nat) :
    (regular.trace issuance member).series.baseline
      = (Issuance.issuedAt? regular.series.baselineIssuances issuance.basis).bind fun issued =>
        match issued.trace member with
        | [] => none
        | events => some (Storage.ofIssuances [⟨issuance.basis, events⟩]) := by
  change (regular.series.baseline.bind fun storage =>
    (storage.position? issuance.basis).bind fun position =>
      (storage.issuance? position).bind _) = _
  rw [TimeSeries.baselineIssuances]
  cases regular.series.baseline with
  | none => rfl
  | some storage =>
    rw [Option.map_some, Option.getD_some, storage.issuedAt?_eq, Option.bind_some]
    cases storage.position? issuance.basis <;> rfl

theorem content_baseline_trace (regular : RegularSeries EnsemblePair)
    (issuance : Issuance EnsemblePair) (member : Nat) :
    (regular.trace issuance member).series.content.baseline
      = (Issuance.issuedAt? regular.series.baselineIssuances issuance.basis).bind fun issued =>
        match issued.trace member with
        | [] => none
        | events => some [⟨issuance.basis, events⟩] := by
  simp only [TimeSeries.content, baseline_trace, Option.map_bind]
  refine congrArg _ (funext fun issued => ?_)
  rw [Function.comp_apply]
  cases issued.trace member with
  | nil => rfl
  | cons first rest => exact congrArg some (Storage.issuances_ofIssuances _)

theorem Steady.isTrace {regular : RegularSeries EnsemblePair} (steady : regular.Steady)
    {issuance : Issuance EnsemblePair} (inMain : issuance ∈ regular.series.issuances)
    {member : Nat} (below : member < issuance.width) :
    regular.IsTrace issuance member (regular.trace issuance member) where
  step := rfl
  metadata := rfl
  baselineMetadata := rfl
  climatology := rfl
  main := ⟨_, (steady.sound.main.every issuance inMain).isTrace below,
    Storage.issuances_ofIssuances _⟩
  baseline issued inBaseline same below := by
    have sound : issued.Sound :=
      steady.sound.of_mem_everyIssuance (List.mem_append_right _ inBaseline)
    refine ⟨_, sound.isTrace below, ?_⟩
    rw [content_baseline_trace, ← same,
      Issuance.issuedAt?_of_mem steady.sound.nodup_baseline inBaseline, Option.bind_some]
    cases traced : issued.trace member with
    | nil => exact absurd traced (sound.trace_ne_nil_iff.mpr below)
    | cons first rest => rfl
  noBaseline past := by
    rw [content_baseline_trace]
    cases found : Issuance.issuedAt? regular.series.baselineIssuances issuance.basis with
    | none => rfl
    | some issued =>
      obtain ⟨inBaseline, same⟩ := Issuance.mem_of_issuedAt? found
      have sound : issued.Sound :=
        steady.sound.of_mem_everyIssuance (List.mem_append_right _ inBaseline)
      have untraced : issued.trace member = [] := by
        by_contra traced
        have below : member < issued.width := sound.trace_ne_nil_iff.mp traced
        exact absurd below (Nat.not_lt.mpr (past issued inBaseline same))
      rw [Option.bind_some, untraced]

theorem Steady.forall₂_isTrace {regular : RegularSeries EnsemblePair} (steady : regular.Steady) :
    List.Forall₂ (fun place item => regular.IsTrace place.1 place.2 item)
      (Issuance.everyMember regular.series.issuances)
      ((Issuance.everyMember regular.series.issuances).map fun (issuance, member) =>
        regular.trace issuance member) := by
  refine List.forall₂_map_right_iff.mpr (List.forall₂_same.mpr ?_)
  rintro ⟨issuance, member⟩ isMember
  obtain ⟨inMain, below⟩ := Issuance.mem_everyMember.mp isMember
  exact steady.isTrace inMain below

end RegularSeries

end Forecast
