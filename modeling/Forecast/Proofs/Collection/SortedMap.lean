import Forecast.Collection.SortedMap
import Forecast.Proofs.Collection.Traversal
import Mathlib.Data.List.Sort

/-!
# Laws of sorted maps

Over a lawful order the entries of a map are what its lookups find, and inserting changes the lookup
of the inserted key only.  The distinct items of a list are its only strictly ascending
rearrangement without repetitions.
-/

namespace Forecast

section

variable {κ : Type} [Ord κ] [Std.TransOrd κ]

theorem ne_of_compare_eq_lt {left right : κ} (less : compare left right = .lt) :
    left ≠ right := by
  rintro rfl
  simp at less

theorem ne_of_compare_eq_gt {left right : κ} (greater : compare left right = .gt) :
    left ≠ right := by
  rintro rfl
  simp at greater

theorem StrictlyAscending.nodup {items : List κ} (ascending : StrictlyAscending items) :
    items.Nodup := ascending.imp ne_of_compare_eq_lt

/-- Strictly ascending lists with the same members are equal. -/
theorem StrictlyAscending.eq_of_mem_iff {left right : List κ}
    (leftAscends : StrictlyAscending left) (rightAscends : StrictlyAscending right)
    (members : ∀ item, item ∈ left ↔ item ∈ right) : left = right := by
  have permutation : left.Perm right :=
    (List.perm_ext_iff_of_nodup leftAscends.nodup rightAscends.nodup).mpr members
  refine permutation.eq_of_pairwise (fun first second _ _ less greater => ?_)
    leftAscends rightAscends
  exact absurd greater (Std.OrientedCmp.not_lt_of_lt less)

/-- Something holds of a key, and of no lesser one. -/
def Least (holds : κ → Prop) (key : κ) : Prop :=
  holds key ∧ ∀ other, holds other → (compare key other).isLE

theorem Least.unique [Std.LawfulEqOrd κ] {holds : κ → Prop} {first second : κ}
    (firstLeast : Least holds first) (secondLeast : Least holds second) : first = second := by
  have below := firstLeast.2 second secondLeast.1
  have above := secondLeast.2 first firstLeast.1
  exact Std.LawfulEqOrd.eq_of_compare (Std.OrientedCmp.isLE_antisymm below above)

/-- The first of ascending keys of which something holds is the least. -/
theorem StrictlyAscending.least {before after : List κ} {key : κ}
    (ascending : StrictlyAscending (before ++ key :: after)) {holds : κ → Prop} (here : holds key)
    (first : ∀ other ∈ before, ¬holds other)
    (within : ∀ other, holds other → other ∈ before ++ key :: after) : Least holds key := by
  refine ⟨here, fun other otherHolds => ?_⟩
  rcases List.mem_append.mp (within other otherHolds) with early | late
  · exact absurd otherHolds (first other early)
  · rcases List.mem_cons.mp late with rfl | later
    · exact Std.ReflCmp.isLE_rfl
    · have behind := (List.pairwise_append.mp ascending).2.1
      rw [List.rel_of_pairwise_cons behind later]
      rfl

theorem StrictlyAscending.least_head {first : κ} {rest : List κ}
    (ascending : StrictlyAscending (first :: rest)) : Least (· ∈ first :: rest) first :=
  StrictlyAscending.least (List.nil_append (first :: rest) ▸ ascending) List.mem_cons_self
    (fun _ missing => absurd missing List.not_mem_nil) fun _ member => member

end

namespace SortedMap

variable {κ β γ : Type} [Ord κ]

theorem mem_keys_iff {map : SortedMap κ β} {key : κ} :
    key ∈ map.keys ↔ ∃ value, (key, value) ∈ map.entries := by
  simp [keys]

theorem mem_keys_filter {map : SortedMap κ β} {keep : κ → Bool} {key : κ} :
    key ∈ (map.filter fun key _ => keep key).keys ↔ key ∈ map.keys ∧ keep key = true := by
  simp [keys, filter]

theorem mem_filterMap {map : SortedMap κ β} {change : β → Option γ} {key : κ} {value : γ} :
    (key, value) ∈ (map.filterMap change).entries ↔
      ∃ old, (key, old) ∈ map.entries ∧ change old = some value := by
  simp only [filterMap, List.mem_filterMap, Prod.exists, Option.map_eq_some_iff, Prod.mk.injEq]
  constructor
  · rintro ⟨_, old, isEntry, _, changed, rfl, rfl⟩
    exact ⟨old, isEntry, changed⟩
  · rintro ⟨old, isEntry, changed⟩
    exact ⟨key, old, isEntry, value, changed, rfl, rfl⟩

@[simp]
theorem get?_empty (key : κ) : (empty : SortedMap κ β).get? key = none := rfl

variable [Std.TransOrd κ] [Std.LawfulEqOrd κ]

omit [Std.LawfulEqOrd κ] in
/-- The first entry of whose key something holds has the least such key. -/
theorem least (map : SortedMap κ β) {before after : List (κ × β)} {entry : κ × β}
    (split : map.entries = before ++ entry :: after) {holds : κ → Prop} (here : holds entry.1)
    (first : ∀ earlier ∈ before, ¬holds earlier.1)
    (within : ∀ key, holds key → ∃ value, (key, value) ∈ map.entries) : Least holds entry.1 := by
  have keys : map.keys = before.map Prod.fst ++ entry.1 :: after.map Prod.fst := by
    rw [SortedMap.keys, split, List.map_append, List.map_cons]
  have ascending : StrictlyAscending map.keys := map.ascending
  rw [keys] at ascending
  refine ascending.least here ?_ ?_
  · intro key earlier
    obtain ⟨other, inBefore, rfl⟩ := List.mem_map.mp earlier
    exact first other inBefore
  · intro key isKey
    rw [← keys, mem_keys_iff]
    exact within key isKey

omit [Std.LawfulEqOrd κ] in
private theorem lookupIn?_insertEntry_self (key : κ) (value : β) (entries : List (κ × β)) :
    lookupIn? key (insertEntry key value entries) = some value := by
  induction entries with
  | nil => simp [insertEntry, lookupIn?]
  | cons entry rest ih =>
    rw [insertEntry]
    cases order : compare key entry.1 <;> simp [lookupIn?, order, ih]

private theorem lookupIn?_insertEntry_of_ne {key sought : κ} (differs : sought ≠ key)
    (value : β) (entries : List (κ × β)) :
    lookupIn? sought (insertEntry key value entries) = lookupIn? sought entries := by
  have unequal : compare sought key ≠ .eq := fun equal =>
    differs (Std.LawfulEqOrd.eq_of_compare equal)
  induction entries with
  | nil => cases order : compare sought key <;> simp_all [insertEntry, lookupIn?]
  | cons entry rest ih =>
    obtain ⟨first, old⟩ := entry
    rw [insertEntry]
    cases order : compare key first with
    | lt =>
      cases soughtOrder : compare sought key with
      | lt =>
        have less : compare sought first = .lt := Std.TransCmp.lt_trans soughtOrder order
        simp [lookupIn?, soughtOrder, less]
      | eq => exact absurd soughtOrder unequal
      | gt => simp [lookupIn?, soughtOrder]
    | eq =>
      obtain rfl := Std.LawfulEqOrd.eq_of_compare order
      cases soughtOrder : compare sought key <;> simp_all [lookupIn?]
    | gt => simp only [lookupIn?, ih]

omit [Std.LawfulEqOrd κ] in
@[simp]
theorem get?_insert_self (map : SortedMap κ β) (key : κ) (value : β) :
    (map.insert key value).get? key = some value :=
  lookupIn?_insertEntry_self key value map.entries

/-- Inserting changes the lookup of the inserted key only. -/
theorem get?_insert [DecidableEq κ] (map : SortedMap κ β) (key sought : κ) (value : β) :
    (map.insert key value).get? sought
      = if sought = key then some value else map.get? sought := by
  split
  · rename_i same
    rw [same, get?_insert_self]
  · rename_i differs
    exact lookupIn?_insertEntry_of_ne differs value map.entries

/-- The entries of a map are what its lookups find. -/
theorem get?_eq_some_iff {map : SortedMap κ β} {key : κ} {value : β} :
    map.get? key = some value ↔ (key, value) ∈ map.entries := by
  obtain ⟨entries, ascending⟩ := map
  simp only [get?]
  induction entries with
  | nil => simp [lookupIn?]
  | cons first rest ih =>
    obtain ⟨above, later⟩ := List.pairwise_cons.mp ascending
    obtain ⟨first, old⟩ := first
    have notBelow (order : (compare key first).isLE) : (key, value) ∉ rest := fun member =>
      absurd (above key (List.mem_map_of_mem member)) (Std.OrientedCmp.not_lt_of_isLE order)
    rw [lookupIn?, List.mem_cons, Prod.mk.injEq]
    cases order : compare key first with
    | lt =>
      simp [ne_of_compare_eq_lt order, notBelow (by simp [order])]
    | eq =>
      obtain rfl := Std.LawfulEqOrd.eq_of_compare order
      simp [notBelow (by simp), eq_comm]
    | gt =>
      simp [ne_of_compare_eq_gt order, ih later]

/-- A key is found just when it is among the keys. -/
theorem isSome_get?_iff {map : SortedMap κ β} {key : κ} :
    (map.get? key).isSome ↔ key ∈ map.keys := by
  rw [Option.isSome_iff_exists, mem_keys_iff]
  exact exists_congr fun _ => get?_eq_some_iff

theorem eq_of_mem {map : SortedMap κ β} {key : κ} {value other : β}
    (isValue : (key, value) ∈ map.entries) (isOther : (key, other) ∈ map.entries) :
    value = other := by
  rw [← get?_eq_some_iff] at isValue isOther
  exact Option.some.inj (isValue.symm.trans isOther)

/-- The first entry that passes a test is that of the least key with one that does. -/
theorem find?_eq_some_iff {map : SortedMap κ β} {test : κ × β → Bool} {key : κ} {value : β} :
    map.entries.find? test = some (key, value) ↔
      Least (fun other => ∃ found, (other, found) ∈ map.entries ∧ test (other, found) = true) key
        ∧ (key, value) ∈ map.entries := by
  have first {entry : κ × β} (found : map.entries.find? test = some entry) :
      Least (fun other => ∃ found, (other, found) ∈ map.entries ∧ test (other, found) = true)
        entry.1 := by
    obtain ⟨passes, before, after, split, fail⟩ := List.find?_eq_some_iff_append.mp found
    refine map.least split ⟨entry.2, by simp [split], passes⟩ ?_ ?_
    · rintro earlier inBefore ⟨other, isOther, otherPasses⟩
      have inEntries : (earlier.1, earlier.2) ∈ map.entries := by
        rw [split]
        exact List.mem_append_left _ inBefore
      obtain rfl := eq_of_mem inEntries isOther
      simpa [otherPasses] using fail earlier inBefore
    · rintro other ⟨found, isOther, -⟩
      exact ⟨found, isOther⟩
  constructor
  · intro found
    exact ⟨first found, List.mem_of_find?_eq_some found⟩
  · rintro ⟨least, member⟩
    obtain ⟨other, isOther, passes⟩ := least.1
    have some : (map.entries.find? test).isSome := List.find?_isSome.mpr ⟨_, isOther, passes⟩
    obtain ⟨⟨foundKey, found⟩, isFound⟩ := Option.isSome_iff_exists.mp some
    obtain rfl : foundKey = key := (first isFound).unique least
    obtain rfl := eq_of_mem (List.mem_of_find?_eq_some isFound) member
    exact isFound

omit [Std.LawfulEqOrd κ] in
theorem insertAll_append (map : SortedMap κ β) (front back : List (κ × β)) :
    map.insertAll (front ++ back) = (map.insertAll front).insertAll back :=
  List.foldl_append

/-- Inserting entries lets the last one at a key count. -/
theorem get?_insertAll [DecidableEq κ] (map : SortedMap κ β) (entries : List (κ × β)) (key : κ) :
    (map.insertAll entries).get? key
      = ((entries.reverse.find? fun entry => entry.1 = key).map Prod.snd).or (map.get? key) := by
  induction entries generalizing map with
  | nil => rfl
  | cons entry rest ih =>
    have inserted := ih (map.insert entry.1 entry.2)
    simp only [insertAll, List.foldl_cons] at inserted ⊢
    rw [inserted, get?_insert, List.reverse_cons, List.find?_append]
    cases rest.reverse.find? (fun entry => entry.1 = key) with
    | some found => simp
    | none =>
      rcases eq_or_ne key entry.1 with rfl | differs
      · simp
      · simp [differs, differs.symm]

/-! ## Traversal -/

section

omit [Std.TransOrd κ] [Std.LawfulEqOrd κ]

theorem entries_inj {map other : SortedMap κ β} : map.entries = other.entries ↔ map = other := by
  cases map
  cases other
  simp

/-- Entries of two maps stand side by side under the same keys, with related values. -/
def Alongside (relation : κ → β → γ → Prop) (map : SortedMap κ β) (made : SortedMap κ γ) : Prop :=
  List.Forall₂ (fun entry new => new.1 = entry.1 ∧ relation entry.1 entry.2 new.2)
    map.entries made.entries

omit [Ord κ] in
theorem map_val_changeEach {m : Type → Type} [Monad m] [LawfulMonad m] {change : κ → β → m γ}
    (entries : List (κ × β)) :
    Subtype.val <$> changeEach change entries
      = entries.mapM fun entry => (entry.1, ·) <$> change entry.1 entry.2 := by
  induction entries with
  | nil => simp [changeEach]
  | cons entry rest ih => simp [changeEach, ← ih]

/-- A traversal of a map is one of its entries. -/
theorem map_entries_traverse {m : Type → Type} [Monad m] [LawfulMonad m] {change : κ → β → m γ}
    (map : SortedMap κ β) :
    entries <$> map.traverse change
      = map.entries.mapM fun entry => (entry.1, ·) <$> change entry.1 entry.2 := by
  rw [← map_val_changeEach]
  simp [traverse]

theorem traverse_eq_some_iff {change : κ → β → Option γ} {map : SortedMap κ β}
    {made : SortedMap κ γ} :
    map.traverse change = some made ↔
      map.Alongside (fun key old new => change key old = some new) made := by
  have entries : map.traverse change = some made ↔
      SortedMap.entries <$> map.traverse change = some made.entries := by
    simp [entries_inj]
  rw [entries, map_entries_traverse, mapM_eq_some_iff, Alongside]
  refine Iff.of_eq (congrArg (List.Forall₂ · _ _) (funext₂ fun entry new => propext ?_))
  simp [Prod.ext_iff, eq_comm, and_comm]

/-- A traversal succeeds just if every entry does. -/
theorem isSome_traverse_iff {change : κ → β → Option γ} {map : SortedMap κ β} :
    (map.traverse change).isSome ↔ ∀ entry ∈ map.entries, (change entry.1 entry.2).isSome := by
  have entries : (map.traverse change).isSome = (entries <$> map.traverse change).isSome := by
    simp
  rw [entries, map_entries_traverse, isSome_mapM_iff]
  simp

variable {ε : Type} {change : κ → β → Except ε γ} {map : SortedMap κ β}

theorem traverse_eq_ok_iff {made : SortedMap κ γ} :
    map.traverse change = .ok made ↔
      map.Alongside (fun key old new => change key old = .ok new) made := by
  have entries : map.traverse change = .ok made ↔
      SortedMap.entries <$> map.traverse change = .ok made.entries := by
    cases map.traverse change <;> simp [Functor.map, Except.map, entries_inj]
  rw [entries, map_entries_traverse, mapM_eq_ok_iff, Alongside]
  refine Iff.of_eq (congrArg (List.Forall₂ · _ _) (funext₂ fun entry new => propext ?_))
  cases change entry.1 entry.2 <;> simp [Functor.map, Except.map, Prod.ext_iff, eq_comm]

/-- A traversal fails at the first entry that does. -/
theorem traverse_eq_error_iff {cause : ε} :
    map.traverse change = .error cause ↔
      ∃ before entry after, map.entries = before ++ entry :: after
        ∧ (∀ earlier ∈ before, ∃ new, change earlier.1 earlier.2 = .ok new)
        ∧ change entry.1 entry.2 = .error cause := by
  have entries : map.traverse change = .error cause ↔
      SortedMap.entries <$> map.traverse change = .error cause := by
    cases map.traverse change <;> simp [Functor.map, Except.map]
  have each (entry : κ × β) :
      ((∃ made, (entry.1, ·) <$> change entry.1 entry.2 = .ok made) ↔
          ∃ new, change entry.1 entry.2 = .ok new)
        ∧ ((entry.1, ·) <$> change entry.1 entry.2 = .error cause ↔
          change entry.1 entry.2 = .error cause) := by
    cases change entry.1 entry.2 <;> simp [Functor.map, Except.map]
  rw [entries, map_entries_traverse, mapM_eq_error_iff]
  simp only [each]

end

omit [Std.TransOrd κ] in
/-- What is found at a key in maps alongside is related, or nothing is found in either. -/
theorem Alongside.get?_rel {relation : κ → β → γ → Prop} {map : SortedMap κ β}
    {made : SortedMap κ γ} (alongside : map.Alongside relation made) (key : κ) :
    Option.Rel (relation key) (map.get? key) (made.get? key) := by
  rw [get?, get?]
  rw [Alongside] at alongside
  generalize map.entries = entries, made.entries = changed at alongside ⊢
  induction alongside with
  | nil => exact .none
  | @cons entry new _ _ here _ ih =>
    obtain ⟨same, related⟩ := here
    rw [lookupIn?, lookupIn?, same]
    cases order : compare key entry.1 with
    | lt => exact .none
    | eq =>
      obtain rfl := Std.LawfulEqOrd.eq_of_compare order
      exact .some related
    | gt => exact ih

end SortedMap

section

variable {κ : Type} [Ord κ] [Std.TransOrd κ] [Std.LawfulEqOrd κ]

omit [Std.LawfulEqOrd κ] in
theorem strictlyAscending_sortedDistinct (items : List κ) :
    StrictlyAscending (sortedDistinct items) :=
  SortedMap.ascending _

@[simp]
theorem mem_sortedDistinct {items : List κ} {item : κ} :
    item ∈ sortedDistinct items ↔ item ∈ items := by
  classical
  rw [sortedDistinct, ← SortedMap.isSome_get?_iff, SortedMap.ofList, SortedMap.get?_insertAll]
  simp [List.find?_isSome]

/-- The distinct items are the only strictly ascending list of the members. -/
theorem sortedDistinct_eq {items ascending : List κ} (ascends : StrictlyAscending ascending)
    (members : ∀ item, item ∈ ascending ↔ item ∈ items) : sortedDistinct items = ascending :=
  (strictlyAscending_sortedDistinct items).eq_of_mem_iff ascends fun item => by
    rw [mem_sortedDistinct, members]

end

end Forecast
