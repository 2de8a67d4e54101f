import Forecast.Proofs.Threshold.Acceptance
import Mathlib.Data.List.Chain

/-!
# Tiles between cut points

The conditions of lying between neighbouring cut points tile what lies between the first and the
last of them: each includes its lower cut and excludes its upper one, so no number is lost at a cut
and none is counted twice.
-/

namespace Forecast.Threshold

theorem betweenValues_eq_ok_iff {lower upper : Binary64} {tile : Threshold} :
    betweenValues lower upper = .ok tile ↔
      tile = ⟨.between, some ⟨lower, some upper⟩, none, none⟩ ∧ upper.le lower = false := by
  simp [betweenValues, build_eq_ok_iff, checkBounds_eq_ok_iff]

/-- A cut above the one before gives a tile. -/
theorem exists_betweenValues {lower upper : Binary64} (ascends : lower.lt upper = true) :
    ∃ tile, betweenValues lower upper = .ok tile :=
  ⟨_, betweenValues_eq_ok_iff.mpr ⟨rfl, Binary64.le_eq_false_of_lt ascends⟩⟩

/-- What lies in a tile is at its lower cut or above, and below its upper one. -/
theorem test_of_betweenValues {lower upper : Binary64} {tile : Threshold}
    (built : betweenValues lower upper = .ok tile) (number : Binary64) :
    tile.test number = (lower.le number && number.lt upper) := by
  obtain ⟨rfl, -⟩ := betweenValues_eq_ok_iff.mp built
  rfl

/-- A cut parts the numbers around it: each lies on one side of it only. -/
theorem count_at_cut {lower cut upper : Binary64} (below : lower.lt cut = true)
    (above : cut.lt upper = true) (number : Binary64) :
    ((if lower.le number && number.lt cut then 1 else 0)
        + if cut.le number && number.lt upper then 1 else 0)
      = if lower.le number && number.lt upper then 1 else 0 := by
  rw [Binary64.lt_iff] at below above
  simp only [Bool.and_eq_true, Binary64.le_iff, Binary64.lt_iff, below, above, true_and]
  cases number.isNaN with
  | true => simp
  | false =>
    simp only [true_and]
    split_ifs <;> omega

/-- Ascending cuts give tiles, of which each number between the first and the last cut passes one
and every other number passes none. -/
theorem exists_tiles {first : Binary64} {rest : List Binary64} (several : rest ≠ [])
    (ascending : (first :: rest).IsChain fun left right => left.lt right = true) :
    ∃ tiles,
      List.Forall₂ (fun cuts tile => betweenValues cuts.1 cuts.2 = .ok tile)
          ((first :: rest).zip rest) tiles
        ∧ ∀ number, tiles.countP (·.test number)
          = if first.le number && number.lt (rest.getLast several) then 1 else 0 := by
  induction rest generalizing first with
  | nil => exact absurd rfl several
  | cons second rest ih =>
    obtain ⟨ascends, later⟩ := List.isChain_cons_cons.mp ascending
    obtain ⟨tile, built⟩ := exists_betweenValues ascends
    cases rest with
    | nil =>
      refine ⟨[tile], .cons built .nil, fun number => ?_⟩
      rw [List.countP_singleton, test_of_betweenValues built, List.getLast_singleton]
    | cons third rest =>
      obtain ⟨tiles, othersBuilt, counted⟩ := ih (List.cons_ne_nil third rest) later
      refine ⟨tile :: tiles, .cons built othersBuilt, fun number => ?_⟩
      have above : second.lt ((third :: rest).getLast (List.cons_ne_nil third rest)) = true :=
        later.rel_cons (List.getLast_mem _)
      rw [List.countP_cons, counted, test_of_betweenValues built, Nat.add_comm,
        count_at_cut ascends above, List.getLast_cons_cons]

/-- Neighbouring cuts of an ascending list give thresholds that tile the one between the first and
the last cut: a number that passes this one passes exactly one tile, and any other number, a NaN
too, passes none. -/
theorem tiles_partition {first : Binary64} {rest : List Binary64} (several : rest ≠ [])
    (ascending : (first :: rest).IsChain fun left right => left.lt right = true) :
    ∃ tiles whole,
      List.Forall₂ (fun cuts tile => betweenValues cuts.1 cuts.2 = .ok tile)
          ((first :: rest).zip rest) tiles
        ∧ betweenValues first (rest.getLast several) = .ok whole
        ∧ ∀ number,
          (whole.test number = true ↔
              first.le number = true ∧ number.lt (rest.getLast several) = true)
            ∧ tiles.countP (·.test number) = (if whole.test number then 1 else 0)
            ∧ (number.isNaN = true → ∀ tile ∈ tiles, tile.test number = false) := by
  obtain ⟨tiles, built, counted⟩ := exists_tiles several ascending
  have ascends : first.lt (rest.getLast several) = true :=
    ascending.rel_cons (List.getLast_mem several)
  obtain ⟨whole, wholeBuilt⟩ := exists_betweenValues ascends
  refine ⟨tiles, whole, built, wholeBuilt, fun number => ⟨?_, ?_, fun isNaN => ?_⟩⟩
  · rw [test_of_betweenValues wholeBuilt, Bool.and_eq_true]
  · rw [test_of_betweenValues wholeBuilt, counted]
  · have outside : number.lt (rest.getLast several) = false := by simp [Binary64.lt, isNaN]
    have none : tiles.countP (·.test number) = 0 := by simp [counted, outside]
    simpa using none

/-- Three tiles between the infinities: a negative zero lies in one, between zero and one, and
neither infinity nor a NaN lies in any. -/
theorem tiles_partition_infinite :
    ∃ tiles,
      List.Forall₂ (fun cuts tile => betweenValues cuts.1 cuts.2 = .ok tile)
          [(.negativeInfinity, .zero), (.zero, .one), (.one, .infinity)] tiles
        ∧ tiles.countP (·.test ⟨0x8000000000000000⟩) = 1
        ∧ tiles.countP (·.test .infinity) = 0
        ∧ ∀ tile ∈ tiles, tile.test .nan = false := by
  obtain ⟨tiles, whole, built, wholeBuilt, tiling⟩ :=
    tiles_partition (List.cons_ne_nil .zero [.one, .infinity])
      (by decide : [Binary64.negativeInfinity, .zero, .one, .infinity].IsChain fun left right =>
        left.lt right = true)
  obtain ⟨rfl, -⟩ := betweenValues_eq_ok_iff.mp wholeBuilt
  exact ⟨tiles, built, (tiling _).2.1, (tiling _).2.1, (tiling _).2.2 rfl⟩

end Forecast.Threshold
