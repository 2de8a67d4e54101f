import Forecast.Output.MultiStore
import Forecast.Proofs.Output.Consistency

/-!
# Filing outputs

An output is filed under a metric and at a cell, both named by whoever delivers it.  A builder of
stores of several metrics holds under each metric what has been filed there in order, and assembles
every store on its own.  The metadata of an output are compared with those of the output that was
filed first under the same metric, and never with the metric that it is filed under.
-/

namespace Forecast

variable {group : OutputGroup}

/-- An output behind the metric and the cell that it is filed under. -/
abbrev Filing (group : OutputGroup) := MetricKey × CellKey × Output group

/-- What is handed to a builder of stores of several metrics at a time. -/
inductive Delivery (group : OutputGroup) where
  | single (metric : MetricKey) (key : CellKey) (output : Output group)
  /-- All outputs of a cell. -/
  | cell (key : CellKey) (outputs : CellOutputs group)

/-- Outputs of a delivery. -/
def Delivery.filings : Delivery group → List (Filing group)
  | single metric key output => [(metric, key, output)]
  | cell key outputs => outputs.entries.map fun entry => (entry.1, key, entry.2)

namespace MultiStoreBuilder

/-- Take a delivery. -/
def take (builder : MultiStoreBuilder group) : Delivery group → MultiStoreBuilder group
  | .single metric key output => builder.put metric key output
  | .cell key outputs => builder.add key outputs

/-- The builder that has taken deliveries in order. -/
def ofDeliveries (deliveries : List (Delivery group)) : MultiStoreBuilder group :=
  deliveries.foldl take {}

/-- The builder that outputs have been filed with one by one. -/
def ofFilings (filings : List (Filing group)) : MultiStoreBuilder group :=
  filings.foldl (fun builder filing => builder.put filing.1 filing.2.1 filing.2.2) {}

/-- How outputs are bundled into deliveries makes no difference. -/
theorem ofDeliveries_eq (deliveries : List (Delivery group)) :
    ofDeliveries deliveries = ofFilings (deliveries.flatMap Delivery.filings) := by
  rw [ofDeliveries, ofFilings]
  generalize ({} : MultiStoreBuilder group) = builder
  induction deliveries generalizing builder with
  | nil => rfl
  | cons delivery rest ih =>
    rw [List.foldl_cons, List.flatMap_cons, List.foldl_append, ih]
    cases delivery with
    | single metric key output => rfl
    | cell key outputs =>
      rw [Delivery.filings, List.foldl_map]
      rfl

theorem builders_ofFilings (filings : List (Filing group)) :
    (ofFilings filings).builders
      = SortedMap.group (fun (builder : StoreBuilder group) entry => builder.put entry.1 entry.2) {}
        filings := by
  rw [ofFilings, SortedMap.group]
  exact (List.foldl_hom builders fun _ _ => rfl).symm

/-- The builder of a metric has been given what is filed under it, in order. -/
theorem get?_builders_ofFilings (filings : List (Filing group)) (metric : MetricKey) :
    (ofFilings filings).builders.get? metric
      = if under filings metric = [] then none else some (.putAll {} (under filings metric)) := by
  rw [builders_ofFilings, SortedMap.get?_group]
  rfl

theorem get?_builders_ofFilings_eq_some_iff {filings : List (Filing group)} {metric : MetricKey}
    {builder : StoreBuilder group} :
    (ofFilings filings).builders.get? metric = some builder ↔
      under filings metric ≠ [] ∧ builder = .putAll {} (under filings metric) := by
  rw [get?_builders_ofFilings]
  by_cases missing : under filings metric = [] <;> simp [missing, eq_comm]

/-- Every metric has the store that its own builder assembles to. -/
theorem get?_of_assemble_eq_ok {builder : MultiStoreBuilder group} {multi : MultiStore group}
    (assembled : builder.assemble = .ok multi) :
    (∀ metric filled, builder.builders.get? metric = some filled →
        ∃ store, filled.assemble = .ok store)
      ∧ ∀ metric store, multi.get? metric = some store ↔
        ∃ filled, builder.builders.get? metric = some filled ∧ filled.assemble = .ok store := by
  rw [assemble] at assembled
  split at assembled
  · cases assembled
  obtain ⟨stores, allAssembled, made⟩ := bind_eq_ok_iff.mp assembled
  obtain rfl := Except.ok.inj made
  have alongside := (SortedMap.traverse_eq_ok_iff.mp allAssembled).get?_rel
  constructor
  · intro metric filled present
    have related := alongside metric
    rw [present] at related
    generalize stores.get? metric = found at related
    cases related with
    | some assembles => exact ⟨_, assembles⟩
  · intro metric store
    have related := alongside metric
    rw [MultiStore.get?]
    generalize builder.builders.get? metric = present, stores.get? metric = found at related ⊢
    cases related with
    | none => simp
    | some assembles => simp [assembles]

section

variable {filings : List (Filing group)} {multi : MultiStore group}
  (assembled : (ofFilings filings).assemble = .ok multi)

include assembled

theorem exists_store_of_filing {metric : MetricKey} {entry : CellKey × Output group}
    (filed : (metric, entry) ∈ filings) : ∃ store, multi.get? metric = some store := by
  have nonempty : under filings metric ≠ [] := List.ne_nil_of_mem (mem_under.mpr filed)
  have isBuilder := get?_builders_ofFilings_eq_some_iff.mpr ⟨nonempty, rfl⟩
  obtain ⟨assembles, stores⟩ := get?_of_assemble_eq_ok assembled
  obtain ⟨store, isStore⟩ := assembles metric _ isBuilder
  exact ⟨store, (stores metric store).mpr ⟨_, isBuilder, isStore⟩⟩

/-- The store of a metric has, at every cell, what has been filed there last under the metric. -/
theorem get?_store_of_filings {metric : MetricKey} {store : Store group}
    (has : multi.get? metric = some store) :
    store.Consistent ∧ ∀ key, store.get? key
      = ((under filings metric).reverse.find? fun entry => entry.1 = key).map Prod.snd := by
  obtain ⟨-, stores⟩ := get?_of_assemble_eq_ok assembled
  obtain ⟨filled, isFilled, isStore⟩ := (stores metric store).mp has
  obtain ⟨-, rfl⟩ := get?_builders_ofFilings_eq_some_iff.mp isFilled
  refine ⟨?_, fun key => ?_⟩
  · exact .of_build (StoreBuilder.Reachable.empty.putAll _)
      ((mapError_eq_ok_iff _).mpr isStore)
  · obtain ⟨reference, -, -, -, rfl⟩ := StoreBuilder.assemble_eq_ok_iff.mp isStore
    rw [Store.get?, StoreBuilder.putAll_eq, SortedMap.get?_insertAll, SortedMap.get?_empty,
      Option.or_none]

end

end MultiStoreBuilder

/-! ## What is filed where -/

/-- The metadata of an output name the metric and component that it is filed under. -/
def Output.IsOf (output : Output group) (metric : MetricKey) : Prop :=
  output.metadata.metric = metric.metric ∧ output.metadata.component = metric.component

namespace MultiStore

/-- The outputs are those that have been filed, each where it has been filed, and the outputs of a
metric agree with each other. -/
structure FiledAs (multi : MultiStore group) (filings : List (Filing group)) : Prop where
  /-- Something is kept wherever something has been filed. -/
  kept : ∀ metric key output, (metric, key, output) ∈ filings →
    ∃ store other, multi.get? metric = some store ∧ store.get? key = some other
  /-- No store is empty. -/
  occupied : ∀ metric store, multi.get? metric = some store →
    ∃ key output, store.get? key = some output
  /-- Every output has been filed under its metric and at its cell. -/
  filed : ∀ metric store, multi.get? metric = some store →
    ∀ key output, store.get? key = some output → (metric, key, output) ∈ filings
  /-- Outputs of a metric are minimally equal. -/
  agree : ∀ metric store, multi.get? metric = some store →
    ∀ first firstOutput second secondOutput, store.get? first = some firstOutput →
      store.get? second = some secondOutput →
      firstOutput.metadata.minimallyEqual secondOutput.metadata = true

/-- Every metric is of the group, and so are all outputs of the metric that they are filed under. -/
def OwnMetrics (multi : MultiStore group) : Prop :=
  ∀ metric store, multi.get? metric = some store →
    metric.metric.group = group ∧ ∀ key output, store.get? key = some output → output.IsOf metric

/-- Only metrics of the group are named, and each of them rightly for one output at least. -/
def Vouched (multi : MultiStore group) (filings : List (Filing group)) : Prop :=
  (∀ filing ∈ filings, filing.1.metric.group = group)
    ∧ ∀ metric store, multi.get? metric = some store →
      ∃ key output, store.get? key = some output ∧ output.IsOf metric

/-- Since outputs of a metric agree, one of them vouches for all. -/
theorem FiledAs.ownMetrics_iff {multi : MultiStore group} {filings : List (Filing group)}
    (filedAs : multi.FiledAs filings) : multi.OwnMetrics ↔ multi.Vouched filings := by
  constructor
  · intro own
    refine ⟨fun ⟨metric, key, output⟩ member => ?_, fun metric store has => ?_⟩
    · obtain ⟨store, -, has, -⟩ := filedAs.kept metric key output member
      exact (own metric store has).1
    · obtain ⟨key, output, found⟩ := filedAs.occupied metric store has
      exact ⟨key, output, found, (own metric store has).2 key output found⟩
  · rintro ⟨groups, vouched⟩ metric store has
    obtain ⟨first, firstOutput, isFirst, isOf⟩ := vouched metric store has
    refine ⟨groups _ (filedAs.filed metric store has first firstOutput isFirst), ?_⟩
    intro key output found
    have same := filedAs.agree metric store has key output first firstOutput found isFirst
    obtain ⟨metrics, components, -, -⟩ := OutputMetadata.minimallyEqual_iff.mp same
    exact ⟨metrics.trans isOf.1, components.trans isOf.2⟩

/-- What a builder accepts is what has been delivered to it. -/
theorem filedAs_of_build {deliveries : List (Delivery group)} {multi : MultiStore group}
    (built : (MultiStoreBuilder.ofDeliveries deliveries).build = .ok multi) :
    multi.FiledAs (deliveries.flatMap Delivery.filings) := by
  rw [MultiStoreBuilder.build, mapError_eq_ok_iff, MultiStoreBuilder.ofDeliveries_eq] at built
  generalize deliveries.flatMap Delivery.filings = filings at built ⊢
  have stored {metric : MetricKey} {store : Store group}
      (has : multi.get? metric = some store) :=
    MultiStoreBuilder.get?_store_of_filings built has
  refine ⟨fun metric key output member => ?_, fun metric store has => ?_,
    fun metric store has key output found => ?_,
    fun metric store has first firstOutput second secondOutput isFirst isSecond => ?_⟩
  · obtain ⟨store, has⟩ := MultiStoreBuilder.exists_store_of_filing built member
    have found : (store.get? key).isSome := by
      rw [(stored has).2 key, Option.isSome_map, List.find?_isSome]
      exact ⟨(key, output), List.mem_reverse.mpr (mem_under.mpr member), by simp⟩
    obtain ⟨other, isOther⟩ := Option.isSome_iff_exists.mp found
    exact ⟨store, other, has, isOther⟩
  · have consistent : store.Consistent := (stored has).1
    obtain ⟨⟨key, output⟩, member⟩ := List.exists_mem_of_ne_nil _ consistent.nonempty
    exact ⟨key, output, SortedMap.get?_eq_some_iff.mpr member⟩
  · rw [(stored has).2 key, Option.map_eq_some_iff] at found
    obtain ⟨⟨other, _⟩, isLast, rfl⟩ := found
    obtain rfl : other = key := by simpa using List.find?_some isLast
    exact mem_under.mp (List.mem_reverse.mp (List.mem_of_find?_eq_some isLast))
  · have consistent : store.Consistent := (stored has).1
    have agrees {key : CellKey} {output : Output group} (found : store.get? key = some output) :
        output.metadata.minimallyEqual store.metadata = true :=
      consistent.agrees _ (SortedMap.get?_eq_some_iff.mp found)
    exact OutputMetadata.minimallyEqual_of_common (agrees isFirst) (agrees isSecond)

end MultiStore

end Forecast
