import Forecast.Proofs.Collection.SortedMap
import Mathlib.Data.List.Induction

/-!
# Grouping by key

Items that are filed one after the other, each into what its key holds so far, are grouped by key:
a key holds what its own items come to in their order, whichever other items are filed in between.
-/

namespace Forecast

/-- The items of a key, in order. -/
def under {κ γ : Type} [DecidableEq κ] (items : List (κ × γ)) (key : κ) : List γ :=
  (items.filter fun item => item.1 = key).map Prod.snd

section

variable {κ γ δ : Type} [DecidableEq κ]

@[simp]
theorem under_nil (key : κ) : under ([] : List (κ × γ)) key = [] := rfl

theorem under_cons (item : κ × γ) (rest : List (κ × γ)) (key : κ) :
    under (item :: rest) key
      = if item.1 = key then item.2 :: under rest key else under rest key := by
  by_cases same : item.1 = key <;> simp [under, same]

theorem under_append (first second : List (κ × γ)) (key : κ) :
    under (first ++ second) key = under first key ++ under second key := by
  simp [under]

theorem mem_under {items : List (κ × γ)} {key : κ} {item : γ} :
    item ∈ under items key ↔ (key, item) ∈ items := by
  simp [under]

/-- The last item of a key is the last one that is filed under it. -/
theorem getLast?_under (items : List (κ × γ)) (key : κ) :
    (under items key).getLast?
      = (items.reverse.find? fun item => item.1 = key).map Prod.snd := by
  rw [under, List.getLast?_map, List.getLast?_eq_head?_reverse, ← List.filter_reverse,
    List.head?_filter]

/-- Items related one by one are related under each key. -/
theorem forall₂_under (relation : γ → δ → Prop) {items : List (κ × γ)} {others : List (κ × δ)}
    (related : List.Forall₂ (fun item other => other.1 = item.1 ∧ relation item.2 other.2)
      items others) (key : κ) : List.Forall₂ relation (under items key) (under others key) := by
  induction related with
  | nil => exact .nil
  | @cons item other _ _ here _ ih =>
    rw [under_cons, under_cons, here.1]
    by_cases same : item.1 = key
    · rw [if_pos same, if_pos same]
      exact .cons here.2 ih
    · rwa [if_neg same, if_neg same]

end

namespace SortedMap

variable {κ β γ δ : Type} [Ord κ]

/-- Change every value. -/
def mapValues (change : β → γ) (map : SortedMap κ β) : SortedMap κ γ where
  entries := map.entries.map fun entry => (entry.1, change entry.2)
  ascending := by
    rw [List.map_map]
    exact map.ascending

theorem get?_mapValues (change : β → γ) (map : SortedMap κ β) (key : κ) :
    (map.mapValues change).get? key = (map.get? key).map change := by
  change lookupIn? key (map.entries.map fun entry => (entry.1, change entry.2))
    = (lookupIn? key map.entries).map change
  induction map.entries with
  | nil => rfl
  | cons entry rest ih =>
    rw [List.map_cons, lookupIn?, lookupIn?]
    cases compare key entry.1 with
    | lt => rfl
    | eq => rfl
    | gt => exact ih

theorem pairwise_entries (map : SortedMap κ β) :
    map.entries.Pairwise fun earlier later => compare earlier.1 later.1 = .lt :=
  List.pairwise_map.mp map.ascending

variable [Std.TransOrd κ]

/-- File items one after the other, each into what its key holds so far. -/
def group (file : δ → γ → δ) (start : δ) (items : List (κ × γ)) : SortedMap κ δ :=
  items.foldl (fun map item => map.insert item.1 (file ((map.get? item.1).getD start) item.2)) empty

theorem group_concat (file : δ → γ → δ) (start : δ) (items : List (κ × γ)) (item : κ × γ) :
    group file start (items ++ [item])
      = (group file start items).insert item.1
        (file (((group file start items).get? item.1).getD start) item.2) := by
  simp [group, List.foldl_append]

variable [Std.LawfulEqOrd κ]

/-- A key holds what its own items come to. -/
theorem get?_group [DecidableEq κ] (file : δ → γ → δ) (start : δ) (items : List (κ × γ))
    (key : κ) :
    (group file start items).get? key =
      if under items key = [] then none else some ((under items key).foldl file start) := by
  induction items using List.reverseRecOn with
  | nil => rfl
  | append_singleton items item ih =>
    rw [group_concat, get?_insert, under_append]
    by_cases same : key = item.1
    · subst same
      have held : ((group file start items).get? item.1).getD start
          = (under items item.1).foldl file start := by
        rw [ih]
        by_cases fresh : under items item.1 = [] <;> simp [fresh]
      rw [if_pos rfl, held, under_cons, if_pos rfl, under_nil, if_neg (by simp),
        List.foldl_append]
      rfl
    · rw [if_neg same, ih, under_cons, if_neg (Ne.symm same), under_nil, List.append_nil]

/-- Maps that find the same are equal. -/
theorem ext_get? {first second : SortedMap κ β} (same : ∀ key, first.get? key = second.get? key) :
    first = second := by
  have members (entry : κ × β) : entry ∈ first.entries ↔ entry ∈ second.entries := by
    rw [← get?_eq_some_iff, ← get?_eq_some_iff, same]
  have distinct (map : SortedMap κ β) : map.entries.Nodup :=
    map.pairwise_entries.imp fun less equal =>
      ne_of_compare_eq_lt less (congrArg Prod.fst equal)
  have permutation : first.entries.Perm second.entries :=
    (List.perm_ext_iff_of_nodup (distinct first) (distinct second)).mpr members
  refine entries_inj.mp (permutation.eq_of_pairwise (fun left right _ _ less greater => ?_)
    first.pairwise_entries second.pairwise_entries)
  exact absurd greater (Std.OrientedCmp.not_lt_of_lt less)

/-- A key has one entry at most. -/
theorem under_entries [DecidableEq κ] (map : SortedMap κ β) (key : κ) :
    under map.entries key = (map.get? key).toList := by
  obtain ⟨entries, ascending⟩ := map
  simp only [get?]
  induction entries with
  | nil => rfl
  | cons first rest ih =>
    obtain ⟨above, later⟩ := List.pairwise_cons.mp ascending
    have others (order : (compare key first.1).isLE) : under rest key = [] := by
      rw [under, List.filter_eq_nil_iff.mpr, List.map_nil]
      intro entry member
      simp only [decide_eq_true_eq]
      rintro rfl
      exact Std.OrientedCmp.not_lt_of_isLE order (above _ (List.mem_map_of_mem member))
    rw [under_cons, lookupIn?]
    cases order : compare key first.1 with
    | lt =>
      rw [if_neg (ne_of_compare_eq_lt order).symm, others (by simp [order])]
      rfl
    | eq =>
      rw [if_pos (Std.LawfulEqOrd.eq_of_compare order).symm, others (by simp [order])]
      rfl
    | gt =>
      rw [if_neg (ne_of_compare_eq_gt order).symm]
      exact ih later

theorem filter_key [DecidableEq κ] (map : SortedMap κ β) (key : κ) :
    map.entries.filter (fun entry => entry.1 = key)
      = (map.get? key).toList.map fun value => (key, value) := by
  have again : ∀ entry ∈ map.entries.filter fun entry => entry.1 = key,
      (key, entry.2) = entry := by
    intro entry member
    have isKey : entry.1 = key := by simpa using (List.mem_filter.mp member).2
    rw [← isKey]
  rw [← map.under_entries, under, List.map_map]
  exact ((List.map_congr_left again).trans (List.map_id' _)).symm

/-- The last entry filed under a key of a map is its only one. -/
theorem find?_reverse_entries [DecidableEq κ] (map : SortedMap κ β) (key : κ) :
    (map.entries.reverse.find? fun entry => entry.1 = key).map Prod.snd = map.get? key := by
  rw [← getLast?_under, map.under_entries]
  cases map.get? key <;> rfl

/-- The entries of a map are those of the map that they make up. -/
theorem ofList_entries [DecidableEq κ] (map : SortedMap κ β) : ofList map.entries = map := by
  refine ext_get? fun key => ?_
  rw [ofList, get?_insertAll, map.find?_reverse_entries, get?_empty, Option.or_none]

/-- Inserting what maps hold lets the last map with a key count. -/
theorem get?_insertAll_flatMap [DecidableEq κ] (map : SortedMap κ β) (maps : List (SortedMap κ β))
    (key : κ) :
    (map.insertAll (maps.flatMap entries)).get? key
      = (maps.reverse.findSome? fun other => other.get? key).or (map.get? key) := by
  induction maps generalizing map with
  | nil => rfl
  | cons first rest ih =>
    rw [List.flatMap_cons, insertAll_append, ih, get?_insertAll, first.find?_reverse_entries,
      List.reverse_cons, List.findSome?_append, List.findSome?_singleton, Option.or_assoc]

end SortedMap

end Forecast
