import Forecast.Proofs.Output.Combination

/-!
# Agreement of combined stores

Stores that are combined are not compared with each other; only the outputs that are left in the end
are compared.  So a store matters if later stores leave one of its cells to it.  The first store
always matters, for its metadata, and so does the last, for its outputs.  A store in between may
measure anything if later stores have outputs at all of its cells, although its window counts.
-/

namespace Forecast

namespace Store

variable {group : OutputGroup}

/-- Later stores leave a cell to the store. -/
def Keeps (stores : List (Store group)) (store : Store group) : Prop :=
  ∃ before after, stores = before ++ store :: after
    ∧ ∃ key ∈ store.keys, ∀ later ∈ after, key ∉ later.keys

/-- The metadata of the store are taken, or one of its outputs is. -/
def Contributes (stores : List (Store group)) (store : Store group) : Prop :=
  stores.head? = some store ∨ Keeps stores store

/-- The metadata of all stores that contribute are minimally equal. -/
def Agree (stores : List (Store group)) : Prop :=
  ∀ left right, Contributes stores left → Contributes stores right →
    left.metadata.minimallyEqual right.metadata = true

/-- The output that counts at the cell is not minimally equal to the metadata. -/
def Disagrees (stores : List (Store group)) (metadata : OutputMetadata) (key : CellKey) : Prop :=
  ∃ output, LastHeld stores key output ∧ output.metadata.minimallyEqual metadata = false

/-! ## Contributions -/

theorem LastHeld.keeps {stores : List (Store group)} {key : CellKey} {output : Output group}
    (held : LastHeld stores key output) :
    ∃ store, Keeps stores store ∧ (key, output) ∈ store.entries.entries := by
  obtain ⟨before, store, after, split, isHeld, last⟩ := held
  have isKey : key ∈ store.keys := SortedMap.mem_keys_iff.mpr ⟨output, isHeld⟩
  exact ⟨store, ⟨before, after, split, key, isKey, last⟩, isHeld⟩

theorem Keeps.lastHeld {stores : List (Store group)} {store : Store group}
    (keeps : Keeps stores store) :
    ∃ key output, LastHeld stores key output ∧ (key, output) ∈ store.entries.entries := by
  obtain ⟨before, after, split, key, isKey, last⟩ := keeps
  obtain ⟨output, isHeld⟩ := SortedMap.mem_keys_iff.mp isKey
  exact ⟨key, output, ⟨before, store, after, split, isHeld, last⟩, isHeld⟩

theorem Keeps.mem {stores : List (Store group)} {store : Store group}
    (keeps : Keeps stores store) : store ∈ stores := by
  obtain ⟨before, after, rfl, -⟩ := keeps
  simp

/-- No later store takes a cell of the last one. -/
theorem keeps_last (before : List (Store group)) {store : Store group}
    (consistent : store.Consistent) : Keeps (before ++ [store]) store := by
  obtain ⟨⟨key, output⟩, isEntry⟩ := List.exists_mem_of_ne_nil _ consistent.nonempty
  have isKey : key ∈ store.keys := SortedMap.mem_keys_iff.mpr ⟨output, isEntry⟩
  exact ⟨before, [], rfl, key, isKey, List.forall_mem_nil _⟩

section

variable {first : Store group} {rest : List (Store group)}
  (consistent : ∀ store ∈ first :: rest, store.Consistent)

include consistent

/-- The outputs that count stand for the stores that they are from. -/
theorem agree_iff :
    Agree (first :: rest) ↔
      ∀ key output, LastHeld (first :: rest) key output →
        output.metadata.minimallyEqual first.metadata = true := by
  constructor
  · intro agree key output held
    obtain ⟨store, keeps, isHeld⟩ := held.keeps
    rw [← OutputMetadata.minimallyEqual_congr (agree store first (.inr keeps) (.inl rfl))]
    exact (consistent store keeps.mem).agrees (key, output) isHeld
  · intro agree
    have alike {store : Store group} (contributes : Contributes (first :: rest) store) :
        store.metadata.minimallyEqual first.metadata = true := by
      rcases contributes with isFirst | keeps
      · cases isFirst
        exact first.metadata.minimallyEqual_refl
      · obtain ⟨key, output, held, isHeld⟩ := keeps.lastHeld
        have own := (consistent store keeps.mem).agrees (key, output) isHeld
        rw [OutputMetadata.minimallyEqual_comm, ← OutputMetadata.minimallyEqual_congr own,
          OutputMetadata.minimallyEqual_comm]
        exact agree key output held
    intro left right isLeft isRight
    exact OutputMetadata.minimallyEqual_of_common (alike isLeft) (alike isRight)

/-- Stores that do not agree are refused for the least cell where an output that counts disagrees
with the first store. -/
theorem combine_of_not_agree (disagree : ¬Agree (first :: rest)) :
    ∃ reference key output, first.entries.entries.head? = some reference
      ∧ Least (Disagrees (first :: rest) first.metadata) key
      ∧ LastHeld (first :: rest) key output
      ∧ combine (first :: rest) = .error (.invalidInput
        (.metadataMismatch (.entry key output.metadata reference.2.metadata))) := by
  obtain ⟨reference, isFirst, agrees⟩ := (consistent first List.mem_cons_self).exists_first
  -- The first output of the first store is the reference, and it agrees with that store.
  have foreign : StoreBuilder.Foreign reference.2.metadata (united (first :: rest))
      = Disagrees (first :: rest) first.metadata := by
    funext key
    simp only [StoreBuilder.Foreign, Disagrees, mem_united_iff,
      OutputMetadata.minimallyEqual_congr agrees]
  cases named : StoreBuilder.foreign? reference.2.metadata (united (first :: rest)) with
  | none =>
    refine absurd ((agree_iff consistent).mpr fun key output held => ?_) disagree
    rw [← OutputMetadata.minimallyEqual_congr agrees]
    exact StoreBuilder.foreign?_eq_none_iff.mp named (key, output) (mem_united_iff.mpr held)
  | some entry =>
    obtain ⟨least, member⟩ := StoreBuilder.foreign?_eq_some_iff.mp named
    refine ⟨reference, entry.1, entry.2, isFirst, foreign ▸ least, mem_united_iff.mp member, ?_⟩
    rw [combine_eq_build isFirst, StoreBuilder.build,
      StoreBuilder.assemble_of_foreign rfl least member]
    rfl

end

/-- Stores are combined just when the metadata of those that contribute agree.  If they do not, the
least cell is named where an output that counts disagrees with the first store.  The first and the
last store always contribute. -/
theorem combine_accepts_agreeing (first : Store group) (rest : List (Store group))
    (reachable : ∀ store ∈ first :: rest, store.Reachable) :
    ((∃ combined, combine (first :: rest) = .ok combined) ↔ Agree (first :: rest))
      ∧ (¬Agree (first :: rest) →
        ∃ reference key output, first.entries.entries.head? = some reference
          ∧ Least (Disagrees (first :: rest) first.metadata) key
          ∧ LastHeld (first :: rest) key output
          ∧ combine (first :: rest) = .error (.invalidInput
            (.metadataMismatch (.entry key output.metadata reference.2.metadata))))
      ∧ Contributes (first :: rest) first
      ∧ ∀ last, (first :: rest).getLast? = some last → Contributes (first :: rest) last := by
  have consistent : ∀ store ∈ first :: rest, store.Consistent :=
    fun store member => (reachable store member).consistent
  refine ⟨?_, combine_of_not_agree consistent, .inl rfl, fun last isLast => ?_⟩
  · rw [agree_iff consistent]
    exact exists_combine_iff (consistent first List.mem_cons_self)
  · obtain ⟨before, split⟩ := List.getLast?_eq_some_iff.mp isLast
    have member : last ∈ first :: rest := List.mem_of_getLast? isLast
    rw [split]
    exact .inr (keeps_last before (consistent last member))

/-- A store of another metric than the others, at their cell. -/
def foreign : Store .doubleScore :=
  let metadata : OutputMetadata := { metric := .biasFraction, window := some .unbounded }
  ⟨.ofList [(⟨.unbounded, .allData⟩, ⟨Binary64.zero, metadata⟩)], metadata⟩

theorem foreign_reachable : foreign.Reachable :=
  .build (.put .empty ⟨.unbounded, .allData⟩ ⟨Binary64.zero, foreign.metadata⟩) rfl

theorem single_foreign_reachable (value other : Binary64) :
    ∀ store ∈ [single value none, foreign, single other none], store.Reachable := by
  simp only [List.forall_mem_cons, single_reachable, foreign_reachable, true_and]
  exact List.forall_mem_nil _

/-- The store of another metric does no harm in between, and is refused as the last one. -/
theorem combine_accepts_agreeing_between :
    let outer := single .zero none
    let inner := single .one none
    (∀ store ∈ [outer, foreign, inner], store.Reachable)
      ∧ Agree [outer, foreign, inner] ∧ ¬Contributes [outer, foreign, inner] foreign
      ∧ ¬Agree [outer, inner, foreign]
      ∧ ∃ key output, Least (Disagrees [outer, inner, foreign] outer.metadata) key
        ∧ LastHeld [outer, inner, foreign] key output
        ∧ combine [outer, inner, foreign] = .error (.invalidInput
          (.metadataMismatch (.entry key output.metadata outer.metadata))) := by
  intro outer inner
  have reachable : ∀ store ∈ [outer, foreign, inner], store.Reachable :=
    single_foreign_reachable .zero .one
  have agree : Agree [outer, foreign, inner] :=
    (combine_accepts_agreeing _ _ reachable).1.mp ⟨_, rfl⟩
  have absent : ¬Contributes [outer, foreign, inner] foreign := by
    intro contributes
    cases agree foreign outer contributes (.inl rfl)
  have swapped : ∀ store ∈ [outer, inner, foreign], store.Reachable := by
    intro store member
    exact reachable store (by simp_all [or_comm])
  obtain ⟨accepts, refuses, -⟩ := combine_accepts_agreeing _ _ swapped
  have disagree : ¬Agree [outer, inner, foreign] := by
    intro agrees
    obtain ⟨_, accepted⟩ := accepts.mpr agrees
    cases accepted
  obtain ⟨reference, key, output, isFirst, least, held, refused⟩ := refuses disagree
  cases isFirst
  exact ⟨reachable, agree, absent, disagree, key, output, least, held, refused⟩

/-- Stores are combined although one of them measures another metric, and its window counts. -/
theorem combine_accepts_foreign :
    let stores := [single .zero none, foreign, single .one none]
    (∀ store ∈ stores, store.Reachable)
      ∧ combine stores = .ok ⟨(single .one none).entries, (single .zero (some .unbounded)).metadata⟩
      ∧ ¬((∃ combined, combine stores = .ok combined) ↔
        ∀ left ∈ stores, ∀ right ∈ stores,
          left.metadata.minimallyEqual right.metadata = true) := by
  intro stores
  have accepted : combine stores
    = .ok ⟨(single .one none).entries, (single .zero (some .unbounded)).metadata⟩ := rfl
  refine ⟨single_foreign_reachable .zero .one, accepted, fun exactly => ?_⟩
  have agree : foreign.metadata.minimallyEqual (single .zero none).metadata = true :=
    exactly.mp ⟨_, accepted⟩ foreign (by simp [stores]) (single .zero none) (by simp [stores])
  cases agree

end Store

end Forecast
