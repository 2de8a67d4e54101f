import Mathlib.Data.List.Forall2

/-!
# Traversals and chains that may fail

A traversal of a list succeeds just when every item does, and it gives their results in order.  A
chain of two steps fails where the first of them fails that does.
-/

namespace Forecast

theorem mapM_eq_some_iff {α β : Type} {change : α → Option β} {items : List α}
    {results : List β} :
    items.mapM change = some results ↔
      List.Forall₂ (fun item result => change item = some result) items results := by
  induction items generalizing results with
  | nil => simp [eq_comm]
  | cons item rest ih =>
    simp only [List.mapM_cons, Option.bind_eq_bind, Option.bind_eq_some_iff, Option.pure_def,
      Option.some.injEq, ih, List.forall₂_cons_left_iff]
    constructor
    · rintro ⟨result, changed, tail, tailChanged, rfl⟩
      exact ⟨result, tail, changed, tailChanged, rfl⟩
    · rintro ⟨result, tail, changed, tailChanged, rfl⟩
      exact ⟨result, changed, tail, tailChanged, rfl⟩

/-- A function that agrees with a total one on the items has all its results. -/
theorem mapM_eq_some_map {α β : Type} {change : α → Option β} {total : α → β} {items : List α}
    (agree : ∀ item ∈ items, change item = some (total item)) :
    items.mapM change = some (items.map total) :=
  mapM_eq_some_iff.mpr (List.forall₂_map_right_iff.mpr (List.forall₂_same.mpr agree))

/-- A test that agrees with a total one on the items finds what that one finds. -/
theorem allM_eq_some_all {α : Type} {test : α → Option Bool} {total : α → Bool} {items : List α}
    (agree : ∀ item ∈ items, test item = some (total item)) :
    items.allM test = some (items.all total) := by
  induction items with
  | nil => rfl
  | cons item rest ih =>
    obtain ⟨here, later⟩ := List.forall_mem_cons.mp agree
    rw [List.allM, here, List.all_cons]
    cases total item with
    | false => rfl
    | true => exact ih later

theorem exists_of_mem_right {α β : Type} {relation : α → β → Prop} {items : List α}
    {results : List β} (related : List.Forall₂ relation items results) {result : β}
    (member : result ∈ results) : ∃ item ∈ items, relation item result := by
  induction related with
  | nil => cases member
  | cons here _ ih =>
    rcases List.mem_cons.mp member with rfl | later
    · exact ⟨_, List.mem_cons_self, here⟩
    · obtain ⟨item, inRest, holds⟩ := ih later
      exact ⟨item, List.mem_cons_of_mem _ inRest, holds⟩

theorem exists_of_mem_left {α β : Type} {relation : α → β → Prop} {items : List α}
    {results : List β} (related : List.Forall₂ relation items results) {item : α}
    (member : item ∈ items) : ∃ result ∈ results, relation item result := by
  obtain ⟨result, inResults, holds⟩ := exists_of_mem_right related.flip member
  exact ⟨result, inResults, holds⟩

/-- A function that has a result for every item relates a list to the results. -/
theorem forall₂_filterMap {α β : Type} {change : α → Option β} {items : List α}
    (every : ∀ item ∈ items, (change item).isSome) :
    List.Forall₂ (fun item result => change item = some result) items (items.filterMap change) := by
  induction items with
  | nil => exact .nil
  | cons item rest ih =>
    obtain ⟨here, later⟩ := List.forall_mem_cons.mp every
    obtain ⟨result, changed⟩ := Option.isSome_iff_exists.mp here
    rw [List.filterMap_cons, changed]
    exact .cons changed (ih later)

theorem exists_forall₂_iff {α β : Type} {change : α → Option β} {items : List α} :
    (∃ results, List.Forall₂ (fun item result => change item = some result) items results) ↔
      ∀ item ∈ items, (change item).isSome := by
  constructor
  · rintro ⟨results, related⟩ item member
    obtain ⟨result, -, changed⟩ := exists_of_mem_left related member
    rw [changed]
    rfl
  · exact fun every => ⟨_, forall₂_filterMap every⟩

/-- A traversal succeeds just if every item does. -/
theorem isSome_mapM_iff {α β : Type} {change : α → Option β} {items : List α} :
    (items.mapM change).isSome ↔ ∀ item ∈ items, (change item).isSome := by
  rw [Option.isSome_iff_exists, ← exists_forall₂_iff]
  exact exists_congr fun _ => mapM_eq_some_iff

/-- Related lists agree wherever related items do. -/
theorem map_eq_map_of_forall₂ {α β γ : Type} {relation : α → β → Prop} {items : List α}
    {results : List β} (related : List.Forall₂ relation items results) {left : α → γ}
    {right : β → γ} (same : ∀ item result, relation item result → right result = left item) :
    results.map right = items.map left := by
  induction related with
  | nil => rfl
  | cons here _ ih => rw [List.map_cons, List.map_cons, same _ _ here, ih]

/-- Related lists give the same items wherever related items do. -/
theorem flatMap_eq_flatMap_of_forall₂ {α β γ : Type} {relation : α → β → Prop} {items : List α}
    {results : List β} (related : List.Forall₂ relation items results) {left : α → List γ}
    {right : β → List γ} (same : ∀ item result, relation item result → right result = left item) :
    results.flatMap right = items.flatMap left := by
  rw [List.flatMap_def, List.flatMap_def, map_eq_map_of_forall₂ related same]

/-- A function relates a list to one list only. -/
theorem forall₂_unique {α β : Type} {change : α → Option β} {items : List α}
    {first second : List β}
    (isFirst : List.Forall₂ (fun item result => change item = some result) items first)
    (isSecond : List.Forall₂ (fun item result => change item = some result) items second) :
    first = second := by
  rw [← mapM_eq_some_iff] at isFirst isSecond
  exact Option.some.inj (isFirst.symm.trans isSecond)

/-- The first faulty item behind fine ones is the head, or it is in the rest behind a fine head. -/
theorem exists_split_cons_iff {α : Type} {fine faulty : α → Prop} {first : α} {rest : List α} :
    (∃ before item after, first :: rest = before ++ item :: after
        ∧ (∀ earlier ∈ before, fine earlier) ∧ faulty item) ↔
      faulty first ∨ fine first ∧ ∃ before item after, rest = before ++ item :: after
        ∧ (∀ earlier ∈ before, fine earlier) ∧ faulty item := by
  constructor
  · rintro ⟨before, item, after, split, earlier, here⟩
    cases before with
    | nil =>
      obtain ⟨rfl, -⟩ := List.cons.inj split
      exact .inl here
    | cons next before =>
      obtain ⟨rfl, rfl⟩ := List.cons.inj split
      obtain ⟨isFine, later⟩ := List.forall_mem_cons.mp earlier
      exact .inr ⟨isFine, before, item, after, rfl, later, here⟩
  · rintro (here | ⟨isFine, before, item, after, rfl, earlier, there⟩)
    · exact ⟨[], first, rest, rfl, by simp, here⟩
    · exact ⟨first :: before, item, after, rfl,
        List.forall_mem_cons.mpr ⟨isFine, earlier⟩, there⟩

/-- Something holds of all items, or there is a first one of which it does not. -/
theorem forall_or_exists_first {α : Type} (holds : α → Prop) (items : List α) :
    (∀ item ∈ items, holds item) ∨
      ∃ before item after, items = before ++ item :: after
        ∧ (∀ earlier ∈ before, holds earlier) ∧ ¬holds item := by
  induction items with
  | nil => exact .inl (by simp)
  | cons first rest ih =>
    rw [exists_split_cons_iff]
    by_cases here : holds first
    · rcases ih with every | later
      · exact .inl (List.forall_mem_cons.mpr ⟨here, every⟩)
      · exact .inr (.inr ⟨here, later⟩)
    · exact .inr (.inl here)

section

variable {ε α β : Type} {first : Except ε α} {second : α → Except ε β}

theorem bind_eq_ok_iff {result : β} :
    first >>= second = .ok result ↔ ∃ value, first = .ok value ∧ second value = .ok result := by
  cases first <;> simp [bind, Except.bind]

/-- A check that passes goes on to the rest. -/
theorem check_bind_eq_ok_iff {check : Except ε Unit} {rest : Unit → Except ε α} {result : α} :
    check >>= rest = .ok result ↔ check = .ok () ∧ rest () = .ok result := by
  rw [bind_eq_ok_iff]
  constructor
  · rintro ⟨_, passed, followed⟩
    exact ⟨passed, followed⟩
  · rintro ⟨passed, followed⟩
    exact ⟨(), passed, followed⟩

/-- What is not refused goes on to the rest. -/
theorem refuse_bind_eq_ok_iff {refused : Prop} [Decidable refused] {fault : ε}
    {rest : Except ε α} {skipped : β → Except ε α} {result : α} :
    (if refused then throw fault >>= skipped else rest) = .ok result ↔
      ¬refused ∧ rest = .ok result := by
  by_cases isRefused : refused <;>
    simp [isRefused, throw, throwThe, MonadExceptOf.throw, bind, Except.bind]

theorem bind_eq_error_iff {cause : ε} :
    first >>= second = .error cause ↔
      first = .error cause ∨ ∃ value, first = .ok value ∧ second value = .error cause := by
  cases first <;> simp [bind, Except.bind]

theorem mapM_eq_ok_iff {change : α → Except ε β} {items : List α} {results : List β} :
    items.mapM change = .ok results ↔
      List.Forall₂ (fun item result => change item = .ok result) items results := by
  induction items generalizing results with
  | nil => simp [pure, Except.pure, eq_comm]
  | cons item rest ih =>
    simp only [List.mapM_cons, bind_eq_ok_iff, pure, Except.pure, Except.ok.injEq, ih,
      List.forall₂_cons_left_iff]
    constructor
    · rintro ⟨result, changed, tail, tailChanged, rfl⟩
      exact ⟨result, tail, changed, tailChanged, rfl⟩
    · rintro ⟨result, tail, changed, tailChanged, rfl⟩
      exact ⟨result, changed, tail, tailChanged, rfl⟩

/-- A traversal fails at the first item that does. -/
theorem mapM_eq_error_iff {change : α → Except ε β} {items : List α} {cause : ε} :
    items.mapM change = .error cause ↔
      ∃ before item after, items = before ++ item :: after
        ∧ (∀ earlier ∈ before, ∃ result, change earlier = .ok result)
        ∧ change item = .error cause := by
  induction items with
  | nil => simp [pure, Except.pure]
  | cons item rest ih =>
    rw [exists_split_cons_iff, ← ih]
    simp only [List.mapM_cons, bind_eq_error_iff, pure, Except.pure, reduceCtorEq, and_false,
      exists_false, or_false, exists_and_right]

theorem mapError_eq_ok_iff {δ : Type} (change : ε → δ) {value : α} :
    first.mapError change = .ok value ↔ first = .ok value := by
  cases first <;> simp [Except.mapError]

theorem mapError_eq_error_iff {δ : Type} (change : ε → δ) {cause : δ} :
    first.mapError change = .error cause ↔
      ∃ inner, first = .error inner ∧ change inner = cause := by
  cases first <;> simp [Except.mapError]

theorem mapError_bind {δ : Type} (change : ε → δ) :
    (first >>= second).mapError change
      = (first.mapError change >>= fun value => (second value).mapError change) := by
  cases first <;> rfl

end

end Forecast
