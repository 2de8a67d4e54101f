/-!
# Bisection

Search in a list that ascends with respect to what is sought.  The range of positions that may still
hold it is halved until a single one is left, and only the item there is compared for equality.
-/

namespace Forecast

/-- Search the `size` positions from `base`; `order` compares an item with what is sought.  Of a
range of odd size, the half before a greater item still holds this item. -/
def bisectRange {α : Type} (order : α → Ordering) (items : List α) (base size : Nat) : Option α :=
  if 1 < size then
    let half := size / 2
    match items[base + half]? with
    | none => none
    | some item =>
        if order item = .gt then bisectRange order items base (size - half)
        else bisectRange order items (base + half) (size - half)
  else items[base]?.filter fun item => order item = .eq
termination_by size
decreasing_by all_goals omega

/-- Search a whole list. -/
def bisect {α : Type} (order : α → Ordering) (items : List α) : Option α :=
  bisectRange order items 0 items.length

/-- What a search finds lies in the range searched and compares equal. -/
theorem exists_of_bisectRange {α : Type} {order : α → Ordering} {items : List α} {base size : Nat}
    {item : α} (found : bisectRange order items base size = some item) :
    (∃ position, base ≤ position ∧ position ≤ base + (size - 1) ∧ items[position]? = some item)
      ∧ order item = .eq := by
  fun_induction bisectRange order items base size with
  | case1 => simp at found
  | case2 base size several half candidate atMiddle greater ih =>
    obtain ⟨⟨position, notBelow, notAbove, atPosition⟩, equal⟩ := ih found
    exact ⟨⟨position, notBelow, by omega, atPosition⟩, equal⟩
  | case3 base size several half candidate atMiddle notGreater ih =>
    obtain ⟨⟨position, notBelow, notAbove, atPosition⟩, equal⟩ := ih found
    exact ⟨⟨position, by omega, by omega, atPosition⟩, equal⟩
  | case4 base size single =>
    obtain ⟨atBase, equal⟩ := Option.filter_eq_some_iff.mp found
    exact ⟨⟨base, Nat.le_refl _, Nat.le_add_right _ _, atBase⟩, of_decide_eq_true equal⟩

theorem mem_of_bisectRange {α : Type} {order : α → Ordering} {items : List α} {base size : Nat}
    {item : α} (found : bisectRange order items base size = some item) :
    item ∈ items ∧ order item = .eq := by
  obtain ⟨⟨position, -, -, atPosition⟩, equal⟩ := exists_of_bisectRange found
  exact ⟨List.mem_of_getElem? atPosition, equal⟩

end Forecast
