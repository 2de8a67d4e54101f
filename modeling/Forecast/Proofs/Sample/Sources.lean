import Forecast.Sample.MetadataUnion
import Mathlib.Tactic.Common

/-!
# Metadata of one source

Metadata are joined just when they share a unit and a dataset, which the result then has as well.
Otherwise the first of them is named with the first that differs from it.
-/

namespace Forecast.SampleMetadata

/-- All metadata have one unit and one dataset. -/
def OneSource (metadata : List SampleMetadata) : Prop :=
  ∀ left ∈ metadata, ∀ right ∈ metadata,
    left.unit = right.unit ∧ left.identifier = right.identifier

/-- Metadata are refused for the first that differs in its source from the first of all. -/
inductive Refused : List SampleMetadata → DataError → Prop where
  | differs {first found : SampleMetadata} {before after : List SampleMetadata}
      (agree : ∀ earlier ∈ before,
        earlier.unit = first.unit ∧ earlier.identifier = first.identifier)
      (foreign : found.unit ≠ first.unit ∨ found.identifier ≠ first.identifier) :
      Refused (first :: before ++ found :: after) (.metadataMismatch (.source first found))

theorem OneSource.of_forall {metadata : List SampleMetadata} {common : SampleMetadata}
    (every : ∀ given ∈ metadata,
      given.unit = common.unit ∧ given.identifier = common.identifier) : OneSource metadata := by
  intro left inLeft right inRight
  have ⟨leftUnit, leftIdentifier⟩ := every left inLeft
  have ⟨rightUnit, rightIdentifier⟩ := every right inRight
  exact ⟨leftUnit.trans rightUnit.symm, leftIdentifier.trans rightIdentifier.symm⟩

theorem oneSource_cons {first : SampleMetadata} {rest : List SampleMetadata} :
    OneSource (first :: rest) ↔
      ∀ next ∈ rest, next.unit = first.unit ∧ next.identifier = first.identifier := by
  constructor
  · intro shared next member
    exact shared next (List.mem_cons_of_mem _ member) first List.mem_cons_self
  · exact fun shared => .of_forall (List.forall_mem_cons.mpr ⟨⟨rfl, rfl⟩, shared⟩)

theorem OneSource.of_append {front back : List SampleMetadata}
    (shared : OneSource (front ++ back)) : OneSource front :=
  fun left inLeft right inRight =>
    shared left (List.mem_append_left _ inLeft) right (List.mem_append_left _ inRight)

theorem foreign?_eq_none_iff {first : SampleMetadata} {rest : List SampleMetadata} :
    foreign? first rest = none ↔ OneSource (first :: rest) := by
  rw [oneSource_cons, foreign?, List.find?_eq_none]
  refine forall₂_congr fun next _ => ?_
  rw [Bool.not_eq_true', Bool.not_eq_false, sameSource_iff]

theorem foreign?_eq_some_iff {first found : SampleMetadata} {rest : List SampleMetadata} :
    foreign? first rest = some found ↔
      ∃ before after, rest = before ++ found :: after
        ∧ (∀ earlier ∈ before,
          earlier.unit = first.unit ∧ earlier.identifier = first.identifier)
        ∧ (found.unit ≠ first.unit ∨ found.identifier ≠ first.identifier) := by
  have isForeign : (!found.sameSource first) = true ↔
      found.unit ≠ first.unit ∨ found.identifier ≠ first.identifier := by
    rw [Bool.not_eq_true', ← Bool.not_eq_true, sameSource_iff, not_and_or]
  rw [foreign?, List.find?_eq_some_iff_append, isForeign]
  simp only [Bool.not_not, sameSource_iff]
  constructor
  · rintro ⟨foreign, before, after, rfl, agree⟩
    exact ⟨before, after, rfl, agree, foreign⟩
  · rintro ⟨before, after, rfl, agree, foreign⟩
    exact ⟨foreign, before, after, rfl, agree⟩

/-- A source that all contributions share is that of the result. -/
theorem resolve_of_oneSource {metadata : List SampleMetadata} (shared : OneSource metadata) :
    ∃ resolved, resolve metadata = .ok resolved ∧ (resolved = none ↔ metadata = [])
      ∧ ∀ result ∈ resolved, ∀ given ∈ metadata,
        given.unit = result.unit ∧ given.identifier = result.identifier := by
  cases metadata with
  | nil => exact ⟨none, rfl, by simp, by simp⟩
  | cons first rest =>
    have every : ∀ given ∈ first :: rest,
        given.unit = first.unit ∧ given.identifier = first.identifier :=
      List.forall_mem_cons.mpr ⟨⟨rfl, rfl⟩, oneSource_cons.mp shared⟩
    rw [resolve]
    split
    · refine ⟨some first, rfl, by simp, ?_⟩
      rintro result ⟨⟩
      exact every
    · simp only [union, foreign?_eq_none_iff.mpr shared]
      refine ⟨_, rfl, by simp, ?_⟩
      rintro result ⟨⟩
      exact every

/-- Contributions are refused just for the first that differs in its source. -/
theorem resolve_eq_error_iff {metadata : List SampleMetadata} {cause : DataError} :
    resolve metadata = .error cause ↔ Refused metadata cause := by
  constructor
  · intro failed
    cases metadata with
    | nil => cases failed
    | cons first rest =>
      rw [resolve] at failed
      split at failed
      · cases failed
      · simp only [union] at failed
        cases named : foreign? first rest with
        | none =>
          rw [named] at failed
          cases failed
        | some found =>
          rw [named] at failed
          cases failed
          obtain ⟨before, after, rfl, agree, foreign⟩ := foreign?_eq_some_iff.mp named
          exact .differs agree foreign
  · rintro ⟨agree, foreign⟩
    rename_i first found before after
    have named : foreign? first (before ++ found :: after) = some found :=
      foreign?_eq_some_iff.mpr ⟨before, after, rfl, agree, foreign⟩
    have different : ¬(before ++ found :: after).all (· == first) := by
      intro same
      have equal : found = first := by
        simpa using List.all_eq_true.mp same found (by simp)
      rcases foreign with unit | identifier
      · exact unit (by rw [equal])
      · exact identifier (by rw [equal])
    rw [List.cons_append, resolve, if_neg different]
    simp only [union, named]
    rfl

theorem resolve_eq_ok_iff {metadata : List SampleMetadata} :
    (∃ resolved, resolve metadata = .ok resolved) ↔ OneSource metadata := by
  constructor
  · rintro ⟨resolved, succeeded⟩
    cases metadata with
    | nil => simp [OneSource]
    | cons first rest =>
      rw [← foreign?_eq_none_iff]
      by_contra named
      obtain ⟨found, isFound⟩ := Option.ne_none_iff_exists'.mp named
      obtain ⟨before, after, rfl, agree, foreign⟩ := foreign?_eq_some_iff.mp isFound
      have refused : Refused (first :: before ++ found :: after) _ := .differs agree foreign
      have failed := resolve_eq_error_iff.mpr refused
      rw [List.cons_append, succeeded] at failed
      cases failed
  · intro shared
    obtain ⟨resolved, succeeded, -⟩ := resolve_of_oneSource shared
    exact ⟨resolved, succeeded⟩

/-- Nothing is resolved just where nothing is given. -/
theorem resolve_eq_none_iff {metadata : List SampleMetadata} {resolved : Option SampleMetadata}
    (succeeded : resolve metadata = .ok resolved) : resolved = none ↔ metadata = [] := by
  obtain ⟨_, same, absent, -⟩ := resolve_of_oneSource (resolve_eq_ok_iff.mp ⟨_, succeeded⟩)
  obtain rfl := Except.ok.inj (succeeded.symm.trans same)
  exact absent

/-- Equal metadata are resolved as they are. -/
theorem resolve_of_forall_eq {metadata : List SampleMetadata} (nonempty : metadata ≠ [])
    {given : SampleMetadata} (same : ∀ next ∈ metadata, next = given) :
    resolve metadata = .ok (some given) := by
  obtain ⟨first, rest, rfl⟩ := List.exists_cons_of_ne_nil nonempty
  obtain ⟨rfl, others⟩ := List.forall_mem_cons.mp same
  rw [resolve, if_pos (by simpa using others)]
  rfl

end Forecast.SampleMetadata
