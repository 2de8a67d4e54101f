import Forecast.Collection.Bisection
import Mathlib.Tactic.Common

/-!
# Correctness of bisection

In a list in which whatever lies before an item compares less, and whatever lies behind it greater,
bisection finds the item that compares equal.  In other lists it misses some items: it finds every
item by its key only if the keys ascend.
-/

namespace Forecast

variable {α : Type} {order : α → Ordering} {items : List α}

/-- Of two items, the earlier one compares less or the later one greater. -/
def Ascends (order : α → Ordering) (items : List α) : Prop :=
  items.Pairwise fun earlier later => order earlier = .lt ∨ order later = .gt

theorem Ascends.getElem? (ascends : Ascends order items) {first second : Nat} {earlier later : α}
    (before : first < second) (atFirst : items[first]? = some earlier)
    (atSecond : items[second]? = some later) : order earlier = .lt ∨ order later = .gt := by
  obtain ⟨firstBound, rfl⟩ := List.getElem?_eq_some_iff.mp atFirst
  obtain ⟨secondBound, rfl⟩ := List.getElem?_eq_some_iff.mp atSecond
  exact List.pairwise_iff_getElem.mp ascends first second firstBound secondBound before

/-- Before a greater item, and only there, lies what compares equal. -/
theorem Ascends.greater_iff (ascends : Ascends order items) {position probed : Nat}
    {item candidate : α} (found : items[position]? = some item) (equal : order item = .eq)
    (atProbed : items[probed]? = some candidate) : order candidate = .gt ↔ position < probed := by
  constructor
  · intro greater
    by_contra behind
    rcases Nat.lt_or_eq_of_le (Nat.le_of_not_lt behind) with before | rfl
    · rcases ascends.getElem? before atProbed found with less | isGreater
      · simp [greater] at less
      · simp [equal] at isGreater
    · obtain rfl := Option.some.inj (found.symm.trans atProbed)
      simp [equal] at greater
  · intro before
    exact (ascends.getElem? before found atProbed).resolve_left (by simp [equal])

/-- The range searched always holds the position of an item that compares equal. -/
theorem bisectRange_eq_some (ascends : Ascends order items) {base size position : Nat} {item : α}
    (found : items[position]? = some item) (equal : order item = .eq)
    (within : base + size ≤ items.length) (notBelow : base ≤ position)
    (below : position < base + size) : bisectRange order items base size = some item := by
  fun_induction bisectRange order items base size with
  | case1 base size several half missing =>
    have := List.getElem?_eq_none_iff.mp missing
    omega
  | case2 base size several half candidate atMiddle greater ih =>
    have := (ascends.greater_iff found equal atMiddle).mp greater
    exact ih (by omega) notBelow (by omega)
  | case3 base size several half candidate atMiddle notGreater ih =>
    have := mt (ascends.greater_iff found equal atMiddle).mpr notGreater
    exact ih (by omega) (by omega) (by omega)
  | case4 base size single =>
    obtain rfl : position = base := by omega
    exact Option.filter_eq_some_iff.mpr ⟨found, decide_eq_true equal⟩

/-- Bisection finds exactly the item that compares equal. -/
theorem bisect_eq_some_iff (ascends : Ascends order items) {item : α} :
    bisect order items = some item ↔ item ∈ items ∧ order item = .eq := by
  refine ⟨mem_of_bisectRange, fun ⟨member, equal⟩ => ?_⟩
  obtain ⟨position, found⟩ := List.mem_iff_getElem?.mp member
  obtain ⟨bound, -⟩ := List.getElem?_eq_some_iff.mp found
  exact bisectRange_eq_some ascends found equal (by omega) (Nat.zero_le _) (by omega)

theorem isSome_bisect_iff (ascends : Ascends order items) :
    (bisect order items).isSome ↔ ∃ item ∈ items, order item = .eq := by
  simp only [Option.isSome_iff_exists, bisect_eq_some_iff ascends]

/-! ## Lists that do not ascend -/

/-- Which half is searched is decided by the middle item. -/
theorem bisectRange_of_middle {base size : Nat} {candidate : α} (several : 1 < size)
    (atMiddle : items[base + size / 2]? = some candidate) :
    bisectRange order items base size =
      if order candidate = .gt then bisectRange order items base (size - size / 2)
      else bisectRange order items (base + size / 2) (size - size / 2) := by
  rw [bisectRange, if_pos several]
  simp only [atMiddle]

theorem position_inj (distinct : items.Nodup) {item : α} {first second : Nat}
    (atFirst : items[first]? = some item) (atSecond : items[second]? = some item) :
    first = second :=
  (List.getElem?_inj (List.getElem?_eq_some_iff.mp atFirst).1 distinct).mp
    (atFirst.trans atSecond.symm)

/-- In a list without repetitions, an item is found at its position. -/
theorem within_of_bisectRange (distinct : items.Nodup) {base size position : Nat} {item : α}
    (found : bisectRange order items base size = some item)
    (atPosition : items[position]? = some item) :
    base ≤ position ∧ position ≤ base + (size - 1) := by
  obtain ⟨⟨other, notBelow, notAbove, atOther⟩, -⟩ := exists_of_bisectRange found
  obtain rfl := position_inj distinct atPosition atOther
  exact ⟨notBelow, notAbove⟩

section

variable {κ : Type} [Ord κ] [Std.TransOrd κ] {key : α → κ}

/-- Items whose keys ascend strictly can be searched for any key. -/
theorem ascends_of_pairwise
    (ascending : items.Pairwise fun earlier later => compare (key earlier) (key later) = .lt)
    (sought : κ) : Ascends (fun item => compare (key item) sought) items := by
  refine ascending.imp fun {first second} less => ?_
  have greater := Std.OrientedCmp.gt_iff_lt.mpr less
  cases order : compare (key first) sought with
  | lt => exact .inl order
  | eq => exact .inr (Std.TransCmp.gt_of_gt_of_eq greater order)
  | gt => exact .inr (Std.TransCmp.gt_trans greater order)

/-- Of two items that are both found by their keys, the earlier one has the lesser key: where the
two searches part, the key probed is greater than the lesser one only. -/
theorem compare_eq_lt_of_bisectRange (distinct : items.Nodup) {base size first second : Nat}
    {earlier later : α} (atFirst : items[first]? = some earlier)
    (atSecond : items[second]? = some later) (before : first < second)
    (foundEarlier : bisectRange (fun item => compare (key item) (key earlier)) items base size
      = some earlier)
    (foundLater : bisectRange (fun item => compare (key item) (key later)) items base size
      = some later) : compare (key earlier) (key later) = .lt := by
  fun_induction bisectRange (fun item => compare (key item) (key earlier)) items base size with
  | case1 => simp at foundEarlier
  | case2 base size several half probed atMiddle greater ih =>
    rw [bisectRange_of_middle several atMiddle] at foundLater
    split at foundLater
    case isTrue => exact ih foundEarlier foundLater
    case isFalse notGreater =>
      exact Std.TransCmp.lt_of_lt_of_isLE (Std.OrientedCmp.gt_iff_lt.mp greater)
        (Ordering.isLE_iff_ne_gt.mpr notGreater)
  | case3 base size several half probed atMiddle notGreater ih =>
    rw [bisectRange_of_middle several atMiddle] at foundLater
    split at foundLater
    case isTrue =>
      have ahead := within_of_bisectRange distinct foundEarlier atFirst
      have behind := within_of_bisectRange distinct foundLater atSecond
      omega
    case isFalse => exact ih foundEarlier foundLater
  | case4 base size single =>
    have ahead := within_of_bisectRange distinct foundLater atSecond
    obtain ⟨atBase, -⟩ := Option.filter_eq_some_iff.mp foundEarlier
    obtain rfl := position_inj distinct atFirst atBase
    omega

/-- Every item is found by its key just if the keys ascend strictly. -/
theorem bisect_finds_iff (distinct : items.Nodup) :
    (∀ item ∈ items, bisect (fun other => compare (key other) (key item)) items = some item) ↔
      items.Pairwise fun earlier later => compare (key earlier) (key later) = .lt := by
  constructor
  · intro finds
    rw [List.pairwise_iff_getElem]
    intro first second firstBound secondBound before
    exact compare_eq_lt_of_bisectRange distinct (List.getElem?_eq_getElem firstBound)
      (List.getElem?_eq_getElem secondBound) before (finds _ (List.getElem_mem firstBound))
      (finds _ (List.getElem_mem secondBound))
  · intro ascending item member
    exact (bisect_eq_some_iff (ascends_of_pairwise ascending _)).mpr
      ⟨member, Std.ReflCmp.compare_self⟩

end

end Forecast
