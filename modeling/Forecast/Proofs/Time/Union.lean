import Forecast.Time.WindowUnion
import Mathlib.Data.List.Perm.Basic
import Mathlib.Tactic.Common

/-!
# Unions of windows

The join of windows covers each of them, and every window that does so covers it.  Only one window
has both properties, so a union depends only on which windows are joined, and the union of some of
them stands for them among others.
-/

namespace Forecast

theorem Instant.le_min_iff {bound left right : Instant} :
    bound ≤ left.min right ↔ bound ≤ left ∧ bound ≤ right := by
  simp only [min, lt_iff_rank, le_iff_rank]
  split <;> omega

theorem Instant.max_le_iff {bound left right : Instant} :
    left.max right ≤ bound ↔ left ≤ bound ∧ right ≤ bound := by
  simp only [max, lt_iff_rank, le_iff_rank]
  split <;> omega

theorem Duration.le_min_iff {bound left right : Duration} :
    bound ≤ left.min right ↔ bound ≤ left ∧ bound ≤ right := by
  simp only [min, lt_iff, le_iff]
  split <;> omega

theorem Duration.max_le_iff {bound left right : Duration} :
    left.max right ≤ bound ↔ left ≤ bound ∧ right ≤ bound := by
  simp only [max, lt_iff, le_iff]
  split <;> omega

namespace TimeWindow

/-! ## Covering -/

theorem covers_refl (window : TimeWindow) : window.Covers window := by
  simp only [Covers, Instant.le_iff_rank, Duration.le_iff, Int.le_refl, and_self]

theorem Covers.antisymm {left right : TimeWindow} (leftCovers : left.Covers right)
    (rightCovers : right.Covers left) : left = right := by
  cases left
  cases right
  simp only [Covers, Instant.le_iff_rank, Duration.le_iff] at leftCovers rightCovers
  simp only [mk.injEq, ← Instant.rank_inj, ← Duration.nanoseconds_inj]
  omega

theorem Covers.trans {first second third : TimeWindow} (outer : first.Covers second)
    (inner : second.Covers third) : first.Covers third := by
  simp only [Covers, Instant.le_iff_rank, Duration.le_iff] at *
  omega

/-- What covers a window with ordered bounds has ordered bounds. -/
theorem Covers.valid {outer inner : TimeWindow} (covers : outer.Covers inner)
    (valid : inner.Valid) : outer.Valid := by
  simp only [Covers, Valid, Instant.le_iff_rank, Duration.le_iff] at *
  omega

/-- What covers a window contains the events in it, also by their leads. -/
theorem Covers.contains {outer inner : TimeWindow} (covers : outer.Covers inner)
    {basis time : Instant} (inside : inner.contains basis time = true) :
    outer.contains basis time = true := by
  rw [contains_iff] at *
  simp only [Covers, Instant.le_iff_rank, Duration.le_iff] at *
  omega

/-- A join is covered just where both windows are. -/
theorem covers_join_iff {outer left right : TimeWindow} :
    outer.Covers (left.join right) ↔ outer.Covers left ∧ outer.Covers right := by
  simp only [Covers, join, Instant.le_min_iff, Instant.max_le_iff, Duration.le_min_iff,
    Duration.max_le_iff]
  tauto

theorem covers_foldl_join_iff {outer first : TimeWindow} {rest : List TimeWindow} :
    outer.Covers (rest.foldl join first) ↔ ∀ window ∈ first :: rest, outer.Covers window := by
  induction rest generalizing first with
  | nil => rw [List.foldl_nil, List.forall_mem_singleton]
  | cons second rest ih =>
    rw [List.foldl_cons, ih, List.forall_mem_cons, covers_join_iff, List.forall_mem_cons,
      List.forall_mem_cons, and_assoc]

/-! ## The smallest window that covers all -/

/-- The smallest of the windows that cover all of some windows. -/
structure IsUnion (union : TimeWindow) (windows : List TimeWindow) : Prop where
  covers : ∀ window ∈ windows, union.Covers window
  smallest : ∀ other : TimeWindow, (∀ window ∈ windows, other.Covers window) → other.Covers union

theorem IsUnion.unique {first second : TimeWindow} {windows : List TimeWindow}
    (isFirst : first.IsUnion windows) (isSecond : second.IsUnion windows) : first = second :=
  (isSecond.smallest first isFirst.covers).antisymm (isFirst.smallest second isSecond.covers)

/-- What is covered just where all of the windows are is their union. -/
theorem isUnion_of_forall_iff {union : TimeWindow} {windows : List TimeWindow}
    (covered : ∀ outer : TimeWindow, outer.Covers union ↔ ∀ window ∈ windows, outer.Covers window) :
    union.IsUnion windows where
  covers := (covered union).mp union.covers_refl
  smallest outer := (covered outer).mpr

/-- A union is covered just where all of the windows are. -/
theorem IsUnion.covers_iff {union outer : TimeWindow} {windows : List TimeWindow}
    (isUnion : union.IsUnion windows) :
    outer.Covers union ↔ ∀ window ∈ windows, outer.Covers window :=
  ⟨fun covers window member => covers.trans (isUnion.covers window member),
    isUnion.smallest outer⟩

/-- A union depends only on which windows there are. -/
theorem IsUnion.congr {union : TimeWindow} {left right : List TimeWindow}
    (isUnion : union.IsUnion left) (same : ∀ window, window ∈ left ↔ window ∈ right) :
    union.IsUnion right where
  covers window member := isUnion.covers window ((same window).mpr member)
  smallest other covers :=
    isUnion.smallest other fun window member => covers window ((same window).mp member)

theorem isUnion_foldl_join (first : TimeWindow) (rest : List TimeWindow) :
    (rest.foldl join first).IsUnion (first :: rest) :=
  isUnion_of_forall_iff fun _ => covers_foldl_join_iff

/-- The union of some windows stands for them among others. -/
theorem IsUnion.ungroup {joined union : TimeWindow} {part rest : List TimeWindow}
    (isUnion : union.IsUnion (joined :: rest)) (joins : joined.IsUnion part) :
    union.IsUnion (part ++ rest) :=
  isUnion_of_forall_iff fun outer => by
    rw [isUnion.covers_iff, List.forall_mem_cons, joins.covers_iff, List.forall_mem_append]

/-- Windows are united to the smallest one that covers them, if there are any. -/
theorem union_eq_ok_iff {union : TimeWindow} {windows : List TimeWindow} (nonempty : windows ≠ []) :
    TimeWindow.union windows = .ok union ↔ union.IsUnion windows := by
  obtain ⟨first, rest, rfl⟩ := List.exists_cons_of_ne_nil nonempty
  have joined := isUnion_foldl_join first rest
  constructor
  · intro united
    obtain rfl := Except.ok.inj united
    exact joined
  · intro isUnion
    exact congrArg Except.ok (joined.unique isUnion)

theorem exists_union {windows : List TimeWindow} (nonempty : windows ≠ []) :
    ∃ union, TimeWindow.union windows = .ok union := by
  obtain ⟨first, rest, rfl⟩ := List.exists_cons_of_ne_nil nonempty
  exact ⟨_, rfl⟩

/-- The union of windows with ordered bounds is their least upper bound: it has ordered bounds, it
covers all of them and contains every event that one of them contains, and whatever covers all of
them covers it.  It is the same in any order and with any repetition, and with some of the windows
united first. -/
theorem union_least_upper {windows : List TimeWindow} (nonempty : windows ≠ [])
    (valid : ∀ window ∈ windows, window.Valid) :
    ∃ union, TimeWindow.union windows = .ok union
      ∧ union.Valid
      ∧ (∀ window ∈ windows, union.Covers window)
      ∧ (∀ outer : TimeWindow, (∀ window ∈ windows, outer.Covers window) → outer.Covers union)
      ∧ (∀ window ∈ windows, ∀ basis time,
        window.contains basis time = true → union.contains basis time = true)
      ∧ (∀ others : List TimeWindow, (∀ window, window ∈ others ↔ window ∈ windows) →
        TimeWindow.union others = .ok union)
      ∧ ∀ part rest : List TimeWindow, windows.Perm (part ++ rest) → part ≠ [] →
        ∃ joined, TimeWindow.union part = .ok joined
          ∧ ∀ placed : List TimeWindow, placed.Perm (joined :: rest) →
            TimeWindow.union placed = .ok union := by
  obtain ⟨union, united⟩ := exists_union nonempty
  have isUnion := (union_eq_ok_iff nonempty).mp united
  refine ⟨union, united, ?_, isUnion.covers, isUnion.smallest, ?_, ?_, ?_⟩
  · obtain ⟨window, member⟩ := List.exists_mem_of_ne_nil _ nonempty
    exact (isUnion.covers window member).valid (valid window member)
  · exact fun window member basis time => (isUnion.covers window member).contains
  · intro others same
    obtain ⟨window, member⟩ := List.exists_mem_of_ne_nil _ nonempty
    have othersNonempty := List.ne_nil_of_mem ((same window).mpr member)
    exact (union_eq_ok_iff othersNonempty).mpr (isUnion.congr fun window => (same window).symm)
  · intro part rest split partNonempty
    obtain ⟨joined, partUnited⟩ := exists_union partNonempty
    refine ⟨joined, partUnited, fun placed permuted => ?_⟩
    have joins := (union_eq_ok_iff partNonempty).mp partUnited
    have placedNonempty := List.ne_nil_of_mem (permuted.mem_iff.mpr List.mem_cons_self)
    obtain ⟨other, placedUnited⟩ := exists_union placedNonempty
    have regrouped : other.IsUnion (part ++ rest) :=
      .ungroup (((union_eq_ok_iff placedNonempty).mp placedUnited).congr
        fun _ => permuted.mem_iff) joins
    rw [placedUnited, isUnion.unique (regrouped.congr fun _ => split.mem_iff.symm)]

/-- Leads of one to three hours. -/
def shortLeads : TimeWindow :=
  { unbounded with
    earliestLead := ⟨3600 * Duration.second⟩
    latestLead := ⟨10800 * Duration.second⟩ }

/-- The reference times of one day, at lead zero. -/
def firstDay : TimeWindow :=
  { unbounded with
    earliestReference := .ofNanoseconds 0
    latestReference := .ofNanoseconds (86400 * Duration.second) }

/-- Later reference times, at leads of up to two hours into the past. -/
def hindcast : TimeWindow :=
  { unbounded with
    earliestReference := .ofNanoseconds (43200 * Duration.second)
    latestReference := .ofNanoseconds (100000 * Duration.second)
    earliestLead := ⟨-7200 * Duration.second⟩ }

/-- The last two windows may be united first, and put before the first. -/
theorem union_least_upper_regrouped :
    ∃ union joined, TimeWindow.union [shortLeads, firstDay, hindcast] = .ok union ∧ union.Valid
      ∧ TimeWindow.union [firstDay, hindcast] = .ok joined
      ∧ TimeWindow.union [joined, shortLeads] = .ok union := by
  obtain ⟨union, united, valid, -, -, -, -, regroup⟩ :=
    union_least_upper (List.cons_ne_nil shortLeads [firstDay, hindcast]) (by decide)
  obtain ⟨joined, joins, placed⟩ := regroup [firstDay, hindcast] [shortLeads]
    (List.perm_append_singleton shortLeads _).symm (List.cons_ne_nil _ _)
  exact ⟨union, joined, united, valid, joins, placed _ (.refl _)⟩

end TimeWindow

end Forecast
