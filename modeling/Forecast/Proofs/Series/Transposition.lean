import Forecast.Proofs.Series.Traces

/-!
# Putting traces together

The traces of an ensemble determine it, if it has members.  Hence those of all members determine the
issuances of a series: issuances are told apart by their basis times, and the traces of one issuance
have an event for every one of its events.
-/

namespace Forecast

/-- An ensemble with members is determined by its traces. -/
theorem EnsemblePair.eq_of_trace?_eq {left right : EnsemblePair} (width : left.width = right.width)
    (populated : 0 < left.width)
    (same : ∀ member < left.width, left.trace? member = right.trace? member) : left = right := by
  obtain ⟨leftValue, leftMembers⟩ := left
  obtain ⟨rightValue, rightMembers⟩ := right
  have traced (member : Nat) (inLeft : member < leftMembers.length)
      (inRight : member < rightMembers.length) :
      leftValue = rightValue ∧ leftMembers[member] = rightMembers[member] := by
    simpa [trace?, inLeft, inRight] using same member inLeft
  have values : leftValue = rightValue :=
    (traced 0 populated (Nat.lt_of_lt_of_eq populated width)).1
  have members : leftMembers = rightMembers :=
    List.ext_getElem width fun member inLeft inRight => (traced member inLeft inRight).2
  rw [values, members]

namespace Issuance

/-- Events of an issuance with members are determined by its traces. -/
theorem Sound.events_eq_of_trace_eq {left right : Issuance EnsemblePair} (leftSound : left.Sound)
    (rightSound : right.Sound) (width : left.width = right.width) (populated : 0 < left.width)
    (same : ∀ member < left.width, left.trace member = right.trace member) :
    left.events = right.events := by
  have ofLeft (member : Nat) (below : member < left.width) := leftSound.forall₂_trace below
  have ofRight (member : Nat) (below : member < left.width) :=
    rightSound.forall₂_trace (width ▸ below)
  have lengths : left.events.length = right.events.length := by
    rw [(ofLeft 0 populated).length_eq, (ofRight 0 populated).length_eq, same 0 populated]
  refine List.ext_getElem lengths fun index inLeft inRight => ?_
  have traced (member : Nat) (below : member < left.width) :
      left.events[index].time = right.events[index].time
        ∧ left.events[index].value.trace? member = right.events[index].value.trace? member := by
    have inTrace : index < (right.trace member).length := by
      rwa [← (ofRight member below).length_eq]
    have leftTraced := ofLeft member below
    rw [same member below] at leftTraced
    obtain ⟨leftTime, leftValue⟩ := leftTraced.get inLeft inTrace
    obtain ⟨rightTime, rightValue⟩ := (ofRight member below).get inRight inTrace
    exact ⟨leftTime.symm.trans rightTime, leftValue.trans rightValue.symm⟩
  have leftWidth := leftSound.width_eq (List.getElem_mem inLeft)
  have rightWidth := rightSound.width_eq (List.getElem_mem inRight)
  have value : left.events[index].value = right.events[index].value := by
    refine EnsemblePair.eq_of_trace?_eq ?_ ?_ fun member below => ?_
    · rw [leftWidth, rightWidth, width]
    · rwa [leftWidth]
    · exact (traced member (leftWidth ▸ below)).2
  exact congrArg₂ Event.mk (traced 0 populated).1 value

/-- The traces of the members of an issuance. -/
def traces (issuance : Issuance EnsemblePair) : List (Issuance SinglePair) :=
  (List.range issuance.width).map fun member => ⟨issuance.basis, issuance.trace member⟩

theorem basis_of_mem_traces {issuance : Issuance EnsemblePair} {traced : Issuance SinglePair}
    (isTrace : traced ∈ issuance.traces) : traced.basis = issuance.basis := by
  obtain ⟨member, -, rfl⟩ := List.mem_map.mp isTrace
  rfl

theorem Sound.eq_of_traces_eq {left right : Issuance EnsemblePair} (leftSound : left.Sound)
    (rightSound : right.Sound) (populated : 0 < left.width) (same : left.traces = right.traces) :
    left = right := by
  have width : left.width = right.width := by simpa [traces] using congrArg List.length same
  have each : ∀ member < left.width,
      left.basis = right.basis ∧ left.trace member = right.trace member := by
    rw [traces, traces, ← width, List.map_inj_left] at same
    intro member below
    simpa using same member (List.mem_range.mpr below)
  have events : left.events = right.events :=
    leftSound.events_eq_of_trace_eq rightSound width populated fun member below =>
      (each member below).2
  exact congrArg₂ Issuance.mk (each 0 populated).1 events

variable {issuance : Issuance EnsemblePair} {rest : List (Issuance EnsemblePair)}

/-- The first trace is that of the first member of the first issuance. -/
theorem head?_flatMap_traces (rest : List (Issuance EnsemblePair))
    (populated : 0 < issuance.width) :
    ((issuance :: rest).flatMap traces).head? = some ⟨issuance.basis, issuance.trace 0⟩ := by
  obtain ⟨others, width⟩ := Nat.exists_eq_succ_of_ne_zero (Nat.ne_of_gt populated)
  rw [List.flatMap_cons, traces, width, List.range_succ_eq_map]
  rfl

/-- The traces at the basis time of the first issuance are its own. -/
theorem filter_flatMap_traces (absent : issuance.basis ∉ rest.map basis) :
    ((issuance :: rest).flatMap traces).filter (fun traced => traced.basis == issuance.basis)
      = issuance.traces := by
  have others : (rest.flatMap traces).filter (fun traced => traced.basis == issuance.basis)
      = [] := by
    rw [List.filter_eq_nil_iff]
    intro traced isTrace same
    obtain ⟨other, inRest, ofOther⟩ := List.mem_flatMap.mp isTrace
    apply absent
    rw [← eq_of_beq same, basis_of_mem_traces ofOther]
    exact List.mem_map_of_mem inRest
  rw [List.flatMap_cons, List.filter_append, others, List.append_nil, List.filter_eq_self]
  exact fun traced isTrace => beq_iff_eq.mpr (basis_of_mem_traces isTrace)

/-- Sound issuances with members at different basis times are determined by their traces. -/
theorem eq_of_flatMap_traces_eq {left right : List (Issuance EnsemblePair)}
    (leftSound : ∀ issuance ∈ left, issuance.Sound ∧ 0 < issuance.width)
    (rightSound : ∀ issuance ∈ right, issuance.Sound ∧ 0 < issuance.width)
    (leftDistinct : (left.map basis).Nodup) (rightDistinct : (right.map basis).Nodup)
    (same : left.flatMap traces = right.flatMap traces) : left = right := by
  induction left generalizing right with
  | nil =>
    cases right with
    | nil => rfl
    | cons other others =>
      have first := head?_flatMap_traces others (rightSound other List.mem_cons_self).2
      rw [← same] at first
      cases first
  | cons issuance rest ih =>
    obtain ⟨⟨sound, populated⟩, restSound⟩ := List.forall_mem_cons.mp leftSound
    obtain ⟨absent, restDistinct⟩ := List.nodup_cons.mp leftDistinct
    have first := head?_flatMap_traces rest populated
    rw [same] at first
    cases right with
    | nil => cases first
    | cons other others =>
      obtain ⟨⟨otherSound, otherPopulated⟩, othersSound⟩ := List.forall_mem_cons.mp rightSound
      obtain ⟨otherAbsent, othersDistinct⟩ := List.nodup_cons.mp rightDistinct
      -- The first trace tells the first basis time, and only one issuance has traces at that time.
      have bases : other.basis = issuance.basis := by
        rw [head?_flatMap_traces others otherPopulated] at first
        exact (Issuance.mk.inj (Option.some.inj first)).1
      have traces := filter_flatMap_traces absent
      rw [same, ← bases, filter_flatMap_traces otherAbsent] at traces
      obtain rfl : other = issuance := otherSound.eq_of_traces_eq sound otherPopulated traces
      rw [List.flatMap_cons, List.flatMap_cons, List.append_cancel_left_eq] at same
      rw [ih restSound othersSound restDistinct othersDistinct same]

end Issuance

/-- The issuances of an ensemble series have members. -/
def TimeSeries.Populated (series : TimeSeries EnsemblePair) : Prop :=
  ∀ issuance ∈ series.issuances, ∀ event ∈ issuance.events, event.value.members ≠ []

instance (series : TimeSeries EnsemblePair) : Decidable series.Populated :=
  inferInstanceAs (Decidable (∀ issuance ∈ series.issuances, ∀ event ∈ issuance.events,
    event.value.members ≠ []))

theorem TimeSeries.Populated.width_pos {series : TimeSeries EnsemblePair}
    (populated : series.Populated) (sound : series.Sound) {issuance : Issuance EnsemblePair}
    (member : issuance ∈ series.issuances) : 0 < issuance.width := by
  have issued : issuance.Sound := sound.main.every issuance member
  obtain ⟨event, inEvents⟩ := List.exists_mem_of_ne_nil _ issued.nonempty
  rw [← issued.width_eq inEvents]
  exact List.length_pos_iff.mpr (populated issuance member event inEvents)

namespace RegularSeries

variable {regular : RegularSeries EnsemblePair}

/-- The walk by trace gives the traces of the issuances in turn. -/
theorem map_main_of_gives_byTrace {items : List (RegularSeries SinglePair)}
    (gives : Cursor.Gives regular.byTrace items) :
    items.map (fun item => item.series.content.main)
      = (regular.series.issuances.flatMap Issuance.traces).map fun traced => [traced] := by
  rw [gives.unique regular.gives_byTrace, Issuance.everyMember, List.map_map, List.map_flatMap,
    List.map_flatMap]
  refine List.flatMap_congr fun issuance _ => ?_
  rw [Issuance.traces, List.map_map, List.map_map]
  exact List.map_congr_left fun member _ => Storage.issuances_ofIssuances _

/-- Series with members whose walks by trace give the same have the same issuances. -/
theorem Steady.issuances_eq_of_traces {other : RegularSeries EnsemblePair}
    (steady : regular.Steady) (otherSteady : other.Steady) (populated : regular.series.Populated)
    (otherPopulated : other.series.Populated) {items others : List (RegularSeries SinglePair)}
    (gives : Cursor.Gives regular.byTrace items) (otherGives : Cursor.Gives other.byTrace others)
    (same : others.map (fun item => item.series.content.main)
      = items.map fun item => item.series.content.main) :
    other.series.issuances = regular.series.issuances := by
  rw [map_main_of_gives_byTrace gives, map_main_of_gives_byTrace otherGives] at same
  refine Issuance.eq_of_flatMap_traces_eq ?_ ?_ otherSteady.sound.nodup_main
    steady.sound.nodup_main (List.map_injective_iff.mpr List.singleton_injective same)
  · exact fun issuance member => ⟨otherSteady.sound.main.every issuance member,
      otherPopulated.width_pos otherSteady.sound member⟩
  · exact fun issuance member => ⟨steady.sound.main.every issuance member,
      populated.width_pos steady.sound member⟩

/-- A walk by trace through a reachable series gives the trace of every member of every issuance,
and what it gives determines the issuances if they have members. -/
theorem Reachable.traces_transpose (reachable : regular.Reachable) :
    (∀ issuance ∈ regular.series.everyIssuance, ∀ event ∈ issuance.events,
      event.value.members.length = issuance.width)
    ∧ ∃ items, Cursor.Gives regular.byTrace items
      ∧ List.Forall₂ (fun place item => regular.IsTrace place.1 place.2 item)
        (Issuance.everyMember regular.series.issuances) items
      ∧ (regular.series.Populated →
        ∀ other : RegularSeries EnsemblePair, other.Reachable → other.series.Populated →
        ∀ others, Cursor.Gives other.byTrace others →
          others.map (fun item => item.series.content.main)
            = items.map (fun item => item.series.content.main) →
          other.series.issuances = regular.series.issuances) := by
  have steady : regular.Steady := reachable.steady
  refine ⟨?_, _, regular.gives_byTrace, steady.forall₂_isTrace, ?_⟩
  · intro issuance member event inEvents
    exact (steady.sound.of_mem_everyIssuance member).width_eq inEvents
  · intro populated other otherReachable otherPopulated others otherGives same
    exact steady.issuances_eq_of_traces otherReachable.steady populated otherPopulated
      regular.gives_byTrace otherGives same

/-- An issuance of three members, another one of one member, and a baseline of two members at the
time of the first. -/
def unevenWidths : RegularBuilder EnsemblePair :=
  let issuance (basis : Int) (members : List Binary64) : Issuance EnsemblePair :=
    ⟨.ofNanoseconds basis, [⟨.ofNanoseconds (basis + 5), ⟨.one, members⟩⟩,
      ⟨.ofNanoseconds (basis + 10), ⟨.zero, members⟩⟩]⟩
  (((RegularBuilder.withStep {} ⟨5⟩).add (.events (issuance 20 [.zero, .one, .zero]))).add
    (.events (issuance 0 [.one]))).add (.baseline (issuance 20 [.one, .one]))

/-- The first two of four traces have a baseline. -/
theorem Reachable.traces_transpose_uneven :
    ∃ regular items, unevenWidths.build = .ok regular ∧ Cursor.Gives regular.byTrace items
      ∧ items.map (fun item => item.series.content.baseline.isSome) = [true, true, false, false]
      ∧ items.map (fun item => item.series.basisTimes) = [20, 20, 20, 0].map ([.ofNanoseconds ·])
      ∧ ∀ other : RegularSeries EnsemblePair, other.Reachable → other.series.Populated →
        ∀ others, Cursor.Gives other.byTrace others →
          others.map (fun item => item.series.content.main)
            = items.map (fun item => item.series.content.main) →
          other.series.issuances = regular.series.issuances := by
  have filled : unevenWidths.Reachable := .add (.add (.add (.withStep .empty _) _) _) _
  have reachable : RegularSeries.Reachable _ := .build filled (rfl : unevenWidths.build = .ok _)
  obtain ⟨-, items, gives, -, determined⟩ := reachable.traces_transpose
  refine ⟨_, items, rfl, gives, ?_, ?_, determined (by decide)⟩
  · rw [gives.unique (gives_byTrace _)]
    rfl
  · rw [gives.unique (gives_byTrace _)]
    rfl

end RegularSeries

end Forecast
