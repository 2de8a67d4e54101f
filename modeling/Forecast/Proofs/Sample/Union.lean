import Forecast.Proofs.Time.Union
import Forecast.Sample.MetadataUnion

/-!
# Joining metadata in stages

Metadata that are joined in stages are joined as they would be at once.  The join of some of them
stands for them among others: it has their source and covers their windows.  A threshold is kept
only while all metadata are equal, and metadata without a threshold are equal to their own union.
-/

namespace Forecast

namespace SampleMetadata

/-! ## The union of windows -/

theorem joinedWindow_cons (first : TimeWindow) (rest : List TimeWindow) :
    joinedWindow (first :: rest) = some (rest.foldl TimeWindow.join first) := rfl

/-- Windows are joined to their union, if there are any. -/
theorem joinedWindow_eq_some_iff {windows : List TimeWindow} {union : TimeWindow} :
    joinedWindow windows = some union ↔ windows ≠ [] ∧ union.IsUnion windows := by
  cases windows with
  | nil =>
    have absent : joinedWindow [] = none := rfl
    simp [absent]
  | cons first rest =>
    rw [joinedWindow_cons, Option.some.injEq]
    constructor
    · rintro rfl
      exact ⟨List.cons_ne_nil _ _, TimeWindow.isUnion_foldl_join first rest⟩
    · rintro ⟨-, isUnion⟩
      exact (TimeWindow.isUnion_foldl_join first rest).unique isUnion

theorem joinedWindow_eq_none_iff {windows : List TimeWindow} :
    joinedWindow windows = none ↔ windows = [] := by
  cases windows with
  | nil => exact iff_of_true rfl rfl
  | cons first rest => simp [joinedWindow_cons]

/-- Only which windows there are matters to their union. -/
theorem joinedWindow_congr {left right : List TimeWindow}
    (same : ∀ window, window ∈ left ↔ window ∈ right) :
    joinedWindow left = joinedWindow right := by
  have empty : left = [] ↔ right = [] := by
    rw [List.eq_nil_iff_forall_not_mem, List.eq_nil_iff_forall_not_mem]
    exact forall_congr' fun window => not_congr (same window)
  ext union
  rw [joinedWindow_eq_some_iff, joinedWindow_eq_some_iff, ne_eq, ne_eq, empty]
  refine and_congr_right fun _ => ⟨fun isUnion => isUnion.congr same, fun isUnion => ?_⟩
  exact isUnion.congr fun window => (same window).symm

/-- The join of some windows stands for them among others. -/
theorem joinedWindow_append (front back : List TimeWindow) :
    joinedWindow ((joinedWindow front).toList ++ back) = joinedWindow (front ++ back) := by
  cases front with
  | nil => rfl
  | cons first rest =>
    rw [joinedWindow_cons, Option.toList_some, List.singleton_append, joinedWindow_cons,
      List.cons_append, joinedWindow_cons, List.foldl_append]

/-- Equal windows are joined to one of them. -/
theorem joinedWindow_filterMap {α : Type} {windowOf : α → Option TimeWindow} {items : List α}
    {item : α} (member : item ∈ items) (same : ∀ next ∈ items, windowOf next = windowOf item) :
    joinedWindow (items.filterMap windowOf) = windowOf item := by
  have members (window : TimeWindow) :
      window ∈ items.filterMap windowOf ↔ window ∈ (windowOf item).toList := by
    rw [List.mem_filterMap, Option.mem_toList]
    constructor
    · rintro ⟨next, inItems, has⟩
      rwa [← same next inItems]
    · exact fun has => ⟨item, member, has⟩
  rw [joinedWindow_congr members]
  cases windowOf item <;> rfl

theorem joinedWindow_of_all {first : SampleMetadata} {rest : List SampleMetadata}
    (same : rest.all (· == first) = true) :
    joinedWindow ((first :: rest).filterMap window) = first.window := by
  have equal : ∀ next ∈ first :: rest, next = first := by
    simpa using same
  exact joinedWindow_filterMap List.mem_cons_self fun next member => by rw [equal next member]

/-! ## Joining in stages -/

theorem foreign?_of_all {first : SampleMetadata} {rest : List SampleMetadata}
    (same : rest.all (· == first) = true) : foreign? first rest = none := by
  rw [foreign?, List.find?_eq_none]
  intro next member
  have equal : next = first := eq_of_beq (List.all_eq_true.mp same next member)
  simp [equal, sameSource]

/-- Metadata without a threshold are resolved as their union, also where they are equal. -/
theorem resolve_cons_of_bare {first : SampleMetadata} (bare : first.threshold = none)
    (rest : List SampleMetadata) :
    resolve (first :: rest) = some <$> union (first :: rest) := by
  rw [resolve]
  split
  · rename_i same
    rw [union, foreign?_of_all same, joinedWindow_of_all same, ← bare]
    rfl
  · rfl

/-- Metadata stand for others that they share the source and the windows of. -/
structure StandsFor (joined : SampleMetadata) (first : SampleMetadata)
    (rest : List SampleMetadata) : Prop where
  unit : joined.unit = first.unit
  identifier : joined.identifier = first.identifier
  window : joined.window = joinedWindow ((first :: rest).filterMap SampleMetadata.window)
  /-- The others have one source. -/
  oneSource : foreign? first rest = none

theorem union_eq_ok {first : SampleMetadata} {rest : List SampleMetadata}
    (shared : foreign? first rest = none) :
    union (first :: rest) = .ok
      { unit := first.unit
        identifier := first.identifier
        window := joinedWindow ((first :: rest).filterMap SampleMetadata.window)
        threshold := none } := by
  rw [union, shared]
  rfl

theorem union_eq_error {first found : SampleMetadata} {rest : List SampleMetadata}
    (named : foreign? first rest = some found) :
    union (first :: rest) = .error (.metadataMismatch (.source first found)) := by
  rw [union, named]
  rfl

/-- Only the source of the first metadata is told where a union is refused. -/
theorem report_source {left right found : SampleMetadata}
    (source : left.sourceText = right.sourceText) :
    (DataError.metadataMismatch (.source left found)).report
      = (DataError.metadataMismatch (.source right found)).report := by
  have text : (Mismatch.source left found).text = (Mismatch.source right found).text := by
    unfold Mismatch.text
    simp only [source]
  exact congrArg (fun text => ("MetadataMismatch", "Metadata mismatch: " ++ text)) text

/-- A union is the same, and is refused with the same wording, with metadata in place of those
that they stand for. -/
theorem StandsFor.union_report {joined first : SampleMetadata} {rest : List SampleMetadata}
    (stands : joined.StandsFor first rest) (back : List SampleMetadata) :
    (union (joined :: back)).mapError DataError.report
      = (union (first :: (rest ++ back))).mapError DataError.report := by
  have foreign : foreign? first (rest ++ back) = foreign? joined back := by
    have shared := stands.oneSource
    rw [foreign?] at shared
    rw [foreign?, List.find?_append, shared, Option.none_or, foreign?]
    simp only [sameSource, stands.unit, stands.identifier]
  cases named : foreign? joined back with
  | some found =>
    have source : joined.sourceText = first.sourceText := by
      rw [sourceText, sourceText, stands.unit, stands.identifier]
    rw [union_eq_error named, union_eq_error (foreign.trans named)]
    exact congrArg Except.error (report_source source)
  | none =>
    have windows : joinedWindow ((joined :: back).filterMap SampleMetadata.window)
        = joinedWindow ((first :: (rest ++ back)).filterMap SampleMetadata.window) := by
      rw [← List.cons_append, List.filterMap_append, ← joinedWindow_append, ← stands.window]
      cases has : joined.window <;> simp [has]
    rw [union_eq_ok named, union_eq_ok (foreign.trans named), stands.unit, stands.identifier,
      windows]

/-- What some contributions amount to stands for them among further ones. -/
theorem resolve_append_report {front : List SampleMetadata} {given : Option SampleMetadata}
    (resolved : resolve front = .ok given) (back : List SampleMetadata) :
    (resolve (given.toList ++ back)).mapError DataError.report
      = (resolve (front ++ back)).mapError DataError.report := by
  have mapped {left right : Except DataError SampleMetadata}
      (same : left.mapError DataError.report = right.mapError DataError.report) :
      (some <$> left).mapError DataError.report = (some <$> right).mapError DataError.report := by
    cases left <;> cases right <;> simp_all [Except.mapError, Functor.map, Except.map]
  cases front with
  | nil =>
    obtain rfl := Except.ok.inj resolved
    rfl
  | cons first rest =>
    rw [resolve] at resolved
    split at resolved
    · rename_i same
      obtain rfl := Except.ok.inj resolved
      -- Equal metadata may have a threshold, which is kept just if the others are equal, too.
      have stands : first.StandsFor first rest :=
        ⟨rfl, rfl, (joinedWindow_of_all same).symm, foreign?_of_all same⟩
      rw [Option.toList_some, List.singleton_append, List.cons_append, resolve, resolve,
        List.all_append, same, Bool.true_and]
      split
      · rfl
      · exact mapped (stands.union_report back)
    · rename_i differ
      cases named : foreign? first rest with
      | some found =>
        rw [union_eq_error named] at resolved
        cases resolved
      | none =>
        rw [union_eq_ok named] at resolved
        obtain rfl := Except.ok.inj resolved
        -- The union has lost the threshold, so others that equal it are joined to it unchanged.
        have differs : ¬(rest ++ back).all (· == first) := by
          rw [List.all_append, Bool.and_eq_true]
          exact fun same => differ same.1
        rw [Option.toList_some, List.singleton_append, resolve_cons_of_bare rfl,
          List.cons_append, resolve, if_neg differs]
        apply mapped
        apply StandsFor.union_report
        exact ⟨rfl, rfl, rfl, named⟩

end SampleMetadata

end Forecast
