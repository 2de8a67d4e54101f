/-!
# Sorted maps

A map is a list of entries and carries the proof that their keys ascend strictly.  Insertion
replaces the value at an equal key and otherwise puts the entry before the first greater key.  Sets
are sorted lists of keys, built in the same way.
-/

namespace Forecast

/-- Every item compares less than all later ones. -/
def StrictlyAscending {κ : Type} [Ord κ] (items : List κ) : Prop :=
  items.Pairwise fun earlier later => compare earlier later = .lt

/-- A map whose entries are listed in the order of their keys. -/
structure SortedMap (κ β : Type) [Ord κ] where
  /-- Keys with their values. -/
  entries : List (κ × β)
  /-- No key occurs twice, and a lesser one comes first. -/
  ascending : StrictlyAscending (entries.map Prod.fst)
deriving DecidableEq

namespace SortedMap

variable {κ β γ : Type} [Ord κ]

/-- The map without entries. -/
def empty : SortedMap κ β := ⟨[], .nil⟩

instance : Inhabited (SortedMap κ β) := ⟨empty⟩

def size (map : SortedMap κ β) : Nat := map.entries.length

/-- Whether there are no entries. -/
def isEmpty (map : SortedMap κ β) : Bool := map.entries.isEmpty

def keys (map : SortedMap κ β) : List κ := map.entries.map Prod.fst

/-- Values in the order of their keys. -/
def values (map : SortedMap κ β) : List β := map.entries.map Prod.snd

/-- The entries that are kept. -/
def filter (keep : κ → β → Bool) (map : SortedMap κ β) : SortedMap κ β where
  entries := map.entries.filter fun entry => keep entry.1 entry.2
  ascending := map.ascending.sublist (List.filter_sublist.map Prod.fst)

omit [Ord κ] in
theorem map_fst_filterMap_sublist (change : β → Option γ) (entries : List (κ × β)) :
    ((entries.filterMap fun entry =>
      (change entry.2).map fun value => (entry.1, value)).map Prod.fst).Sublist
        (entries.map Prod.fst) := by
  induction entries with
  | nil => exact .slnil
  | cons entry rest ih =>
    rw [List.filterMap_cons]
    cases change entry.2 with
    | none => exact ih.cons _
    | some value => exact ih.cons_cons _

/-- Change or drop every value. -/
def filterMap (change : β → Option γ) (map : SortedMap κ β) : SortedMap κ γ where
  entries := map.entries.filterMap fun entry =>
    (change entry.2).map fun value => (entry.1, value)
  ascending := map.ascending.sublist (map_fst_filterMap_sublist change map.entries)

/-- Change the values of entries one after the other.  The keys stay. -/
def changeEach {m : Type → Type} [Monad m] (change : κ → β → m γ) :
    (entries : List (κ × β)) →
      m { changed : List (κ × γ) // changed.map Prod.fst = entries.map Prod.fst }
  | [] => pure ⟨[], rfl⟩
  | (key, value) :: rest => do
      let first ← change key value
      let ⟨others, same⟩ ← changeEach change rest
      pure ⟨(key, first) :: others, congrArg (key :: ·) same⟩

/-- Change every value, in the order of the keys. -/
def traverse {m : Type → Type} [Monad m] (change : κ → β → m γ) (map : SortedMap κ β) :
    m (SortedMap κ γ) := do
  let ⟨changed, same⟩ ← changeEach change map.entries
  pure ⟨changed, same ▸ map.ascending⟩

/-- Insert into a sorted list of entries. -/
def insertEntry (key : κ) (value : β) : List (κ × β) → List (κ × β)
  | [] => [(key, value)]
  | (first, old) :: rest =>
      match compare key first with
      | .lt => (key, value) :: (first, old) :: rest
      | .eq => (first, value) :: rest
      | .gt => (first, old) :: insertEntry key value rest

theorem mem_map_fst_insertEntry {key other : κ} {value : β} {entries : List (κ × β)}
    (member : other ∈ (insertEntry key value entries).map Prod.fst) :
    other = key ∨ other ∈ entries.map Prod.fst := by
  induction entries with
  | nil => exact .inl (List.mem_singleton.mp member)
  | cons entry rest ih =>
    rw [insertEntry] at member
    split at member
    · exact List.mem_cons.mp member
    · exact .inr member
    · rcases List.mem_cons.mp member with rfl | later
      · exact .inr List.mem_cons_self
      · exact (ih later).imp_right (List.mem_cons_of_mem _)

theorem ascending_insertEntry [Std.TransOrd κ] (key : κ) (value : β) {entries : List (κ × β)}
    (ascending : StrictlyAscending (entries.map Prod.fst)) :
    StrictlyAscending ((insertEntry key value entries).map Prod.fst) := by
  induction entries with
  | nil => exact List.pairwise_singleton _ _
  | cons entry rest ih =>
    obtain ⟨above, later⟩ := List.pairwise_cons.mp ascending
    rw [insertEntry]
    cases order : compare key entry.1 with
    | lt =>
      refine List.pairwise_cons.mpr ⟨fun other member => ?_, ascending⟩
      rcases List.mem_cons.mp member with rfl | inRest
      · exact order
      · exact Std.TransCmp.lt_trans order (above other inRest)
    | eq => exact ascending
    | gt =>
      refine List.pairwise_cons.mpr ⟨fun other member => ?_, ih later⟩
      rcases mem_map_fst_insertEntry member with rfl | inRest
      · exact Std.OrientedCmp.gt_iff_lt.mp order
      · exact above other inRest

/-- Look up in a list of entries. -/
def lookupIn? (key : κ) : List (κ × β) → Option β
  | [] => none
  | (first, value) :: rest =>
      match compare key first with
      | .lt => none
      | .eq => some value
      | .gt => lookupIn? key rest

/-- The value at a key. -/
def get? (map : SortedMap κ β) (key : κ) : Option β := lookupIn? key map.entries

variable [Std.TransOrd κ]

/-- Put a value at a key, in place of any value there. -/
def insert (map : SortedMap κ β) (key : κ) (value : β) : SortedMap κ β where
  entries := insertEntry key value map.entries
  ascending := ascending_insertEntry key value map.ascending

/-- Insert entries one after the other. -/
def insertAll (map : SortedMap κ β) (entries : List (κ × β)) : SortedMap κ β :=
  entries.foldl (fun map entry => map.insert entry.1 entry.2) map

/-- The map of a list of entries, in which a later entry replaces an earlier one. -/
def ofList (entries : List (κ × β)) : SortedMap κ β := empty.insertAll entries

/-- The entries of two maps; where both have a key, the second one's value. -/
def merge (map other : SortedMap κ β) : SortedMap κ β := map.insertAll other.entries

theorem insert_ne_empty (map : SortedMap κ β) (key : κ) (value : β) :
    (map.insert key value).entries ≠ [] := by
  simp only [insert]
  cases map.entries with
  | nil => simp [insertEntry]
  | cons entry rest => rw [insertEntry]; split <;> simp

end SortedMap

/-- The distinct items of a list, in ascending order. -/
def sortedDistinct {κ : Type} [Ord κ] [Std.TransOrd κ] (items : List κ) : List κ :=
  (SortedMap.ofList (items.map fun item => (item, ()))).keys

/-- Sort by an order, keeping equal items in place. -/
def sorted {κ : Type} [Ord κ] (items : List κ) : List κ :=
  items.mergeSort fun left right => (compare left right).isLE

end Forecast
