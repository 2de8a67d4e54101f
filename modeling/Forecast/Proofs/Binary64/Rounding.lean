import Forecast.Proofs.Binary64.Numerals

/-!
# Reals that round to a number

The shortest decimal lies in the interval of reals that round to its number.  Intervals of
neighbouring magnitudes meet at the point half way between them, which belongs to the one with the
even significand, so a real rounds to one magnitude only.
-/

namespace Forecast.Binary64

theorem zpow_mul_pow_toNat_neg {base : ℚ} (base_ne : base ≠ 0) (power : Int) :
    base ^ (-power).toNat * base ^ power = base ^ power.toNat := by
  rw [← zpow_natCast, ← zpow_natCast, ← zpow_add₀ base_ne]
  congr 1
  omega

namespace Rounding

variable (interval : Rounding)

/-- Whether a rational number rounds to the number of the interval. -/
def Contains (number : ℚ) : Prop :=
  if interval.closed then
    interval.lower * (2 : ℚ) ^ interval.exponent ≤ number
      ∧ number ≤ interval.upper * (2 : ℚ) ^ interval.exponent
  else
    interval.lower * (2 : ℚ) ^ interval.exponent < number
      ∧ number < interval.upper * (2 : ℚ) ^ interval.exponent

/-- The common multiple that the comparisons on a grid are stated for. -/
def scale (grid : Int) : ℚ := 10 ^ (-grid).toNat * 2 ^ (-interval.exponent).toNat

theorem scale_pos (grid : Int) : 0 < interval.scale grid := by
  rw [scale]
  positivity

theorem quarters_mul_quarterScale (quarters : Nat) (grid : Int) :
    ((quarters * interval.quarterScale grid : Nat) : ℚ)
      = interval.scale grid * (quarters * (2 : ℚ) ^ interval.exponent) := by
  have power := zpow_mul_pow_toNat_neg (two_ne_zero : (2 : ℚ) ≠ 0) interval.exponent
  rw [quarterScale, scale, Nat.shiftLeft_eq, Nat.pow_eq]
  push_cast
  rw [← power]
  ring

theorem coefficient_mul_gridScale (coefficient : Nat) (grid : Int) :
    ((coefficient * interval.gridScale grid : Nat) : ℚ)
      = interval.scale grid * Decimal.value ⟨coefficient, grid⟩ := by
  have power := zpow_mul_pow_toNat_neg (by norm_num : (10 : ℚ) ≠ 0) grid
  rw [gridScale, scale, Nat.shiftLeft_eq, Nat.pow_eq, Decimal.value]
  push_cast
  rw [← power]
  ring

theorem holds_iff {coefficient : Nat} {grid : Int} :
    interval.holds grid coefficient = true
      ↔ interval.Contains (Decimal.value ⟨coefficient, grid⟩) := by
  have positive := interval.scale_pos grid
  rw [holds, Contains]
  split <;> rw [decide_eq_true_eq] <;>
    simp only [← Nat.cast_le (α := ℚ), ← Nat.cast_lt (α := ℚ), quarters_mul_quarterScale,
      coefficient_mul_gridScale, mul_le_mul_iff_right₀ positive, mul_lt_mul_iff_right₀ positive]

theorem holds_of_neighbour?_eq_some {coefficient : Nat} {grid : Int}
    (found : interval.neighbour? grid = some coefficient) :
    interval.holds grid coefficient = true := by
  simp only [neighbour?] at found
  split at found
  · split at found <;> cases found <;> assumption
  · cases found
    assumption
  · cases found
    assumption
  · cases found

theorem value_full :
    interval.full.value = interval.centre * (2 : ℚ) ^ interval.exponent := by
  have power := zpow_mul_pow_toNat_neg (two_ne_zero : (2 : ℚ) ≠ 0) interval.exponent
  have places : min interval.exponent 0 = -((-interval.exponent).toNat : Int) := by omega
  have tens : (10 : ℚ) ^ (-interval.exponent).toNat
      = 2 ^ (-interval.exponent).toNat * 5 ^ (-interval.exponent).toNat := by
    rw [← mul_pow]
    norm_num
  rw [full, Decimal.value, Nat.shiftLeft_eq, Nat.pow_eq, places, zpow_neg, zpow_natCast, tens]
  push_cast
  rw [← power]
  field_simp

/-- Every decimal that the walk can end with is in the interval, if the number itself is. -/
theorem contains_shortest
    (contains : interval.Contains (interval.centre * (2 : ℚ) ^ interval.exponent))
    (grids : Nat) (grid : Int) : interval.Contains (interval.shortest grids grid).value := by
  induction grids generalizing grid with
  | zero =>
    rw [shortest, value_full]
    exact contains
  | succ grids ih =>
    rw [shortest]
    split
    · next found => exact interval.holds_iff.mp (interval.holds_of_neighbour?_eq_some found)
    · exact ih _

end Rounding

/-! ## Neighbouring magnitudes -/

/-- Binades above the least one, which subnormal numbers share with the least normal ones. -/
def binade (magnitude : Nat) : Nat := max (magnitude / hiddenBit) 1 - 1

/-- The significand of a magnitude in its binade. -/
def significand (magnitude : Nat) : Nat := magnitude - binade magnitude * hiddenBit

/-- The point half way to the next magnitude, in quarters of the least number. -/
def halfway (magnitude : Nat) : Nat := (4 * significand magnitude + 2) * 2 ^ binade magnitude

theorem mantissa_eq_significand (number : Binary64) :
    number.mantissa = significand number.magnitude := by
  rw [mantissa]
  split <;> simp only [significand, binade, exponentField, fraction, hiddenBit] at * <;> omega

/-- The lower end of a magnitude is the upper end of the one before. -/
theorem halfway_eq_lower (magnitude : Nat) :
    halfway magnitude
      = (4 * significand (magnitude + 1)
          - if (magnitude + 1) % hiddenBit = 0 ∧ 1 < (magnitude + 1) / hiddenBit then 1 else 2)
        * 2 ^ binade (magnitude + 1) := by
  split
  · next least =>
    have next : binade (magnitude + 1) = binade magnitude + 1 := by
      simp only [binade, hiddenBit] at *
      omega
    have below : 4 * significand magnitude + 2 = 2 * (4 * significand (magnitude + 1) - 1) := by
      simp only [significand, binade, hiddenBit] at *
      omega
    rw [halfway, below, next, Nat.pow_succ]
    ring
  · next inside =>
    have same : binade (magnitude + 1) = binade magnitude := by
      simp only [binade, hiddenBit] at *
      omega
    have below : 4 * significand magnitude + 2 = 4 * significand (magnitude + 1) - 2 := by
      rw [significand, significand, same]
      simp only [binade, hiddenBit] at *
      omega
    rw [halfway, below, same]

theorem halfway_strictMono : StrictMono halfway := by
  refine strictMono_nat_of_lt_succ fun magnitude => ?_
  rw [halfway_eq_lower, halfway]
  refine Nat.mul_lt_mul_of_pos_right ?_ (by positivity)
  omega

theorem even_significand_iff (magnitude : Nat) :
    significand magnitude % 2 = 0 ↔ magnitude % 2 = 0 := by
  simp only [significand, binade, hiddenBit]
  omega

section

variable {number left right : Binary64} {real : ℚ}

theorem zpow_rounding_exponent (number : Binary64) :
    (2 : ℚ) ^ number.rounding.exponent * 2 ^ 1076 = 2 ^ binade number.magnitude := by
  have exponent : number.rounding.exponent + (1076 : Nat) = binade number.magnitude := by
    simp only [rounding, exponent, binade, exponentField]
    omega
  rw [← zpow_natCast, ← zpow_natCast, ← zpow_add₀ (by norm_num), exponent]

theorem lower_mul_binade {before : Nat} (succ : number.magnitude = before + 1) :
    number.rounding.lower * 2 ^ binade number.magnitude = halfway before := by
  rw [halfway_eq_lower, rounding, mantissa_eq_significand, fraction, exponentField, succ]

theorem upper_mul_binade (number : Binary64) :
    number.rounding.upper * 2 ^ binade number.magnitude = halfway number.magnitude := by
  rw [halfway, rounding, mantissa_eq_significand]

/-- The interval of a number in quarters of the least number. -/
theorem contains_rounding_iff :
    number.rounding.Contains real ↔
      if number.magnitude % 2 = 0 then
        (number.rounding.lower * 2 ^ binade number.magnitude : Nat) ≤ real * 2 ^ 1076
          ∧ real * 2 ^ 1076 ≤ (number.rounding.upper * 2 ^ binade number.magnitude : Nat)
      else
        (number.rounding.lower * 2 ^ binade number.magnitude : Nat) < real * 2 ^ 1076
          ∧ real * 2 ^ 1076 < (number.rounding.upper * 2 ^ binade number.magnitude : Nat) := by
  have positive : (0 : ℚ) < 2 ^ 1076 := by positivity
  have closed : number.rounding.closed = true ↔ number.magnitude % 2 = 0 := by
    rw [← even_significand_iff, ← mantissa_eq_significand]
    exact decide_eq_true_iff
  have scaled (quarters : Nat) : ((quarters * 2 ^ binade number.magnitude : Nat) : ℚ)
      = quarters * (2 : ℚ) ^ number.rounding.exponent * 2 ^ 1076 := by
    rw [mul_assoc, zpow_rounding_exponent]
    push_cast
    rfl
  simp only [Rounding.Contains, closed, scaled, mul_le_mul_iff_left₀ positive,
    mul_lt_mul_iff_left₀ positive]

/-- What rounds to a number is at most half way to the next magnitude. -/
theorem Rounding.Contains.le_halfway (contains : number.rounding.Contains real) :
    real * 2 ^ 1076 ≤ halfway number.magnitude
      ∧ (number.magnitude % 2 = 1 → real * 2 ^ 1076 < halfway number.magnitude) := by
  rw [contains_rounding_iff, upper_mul_binade] at contains
  split at contains
  · next even => exact ⟨contains.2, fun odd => by omega⟩
  · exact ⟨contains.2.le, fun _ => contains.2⟩

/-- What rounds to a number is at least half way from the magnitude before. -/
theorem Rounding.Contains.halfway_le (contains : number.rounding.Contains real) {before : Nat}
    (succ : number.magnitude = before + 1) :
    halfway before ≤ real * 2 ^ 1076
      ∧ (number.magnitude % 2 = 1 → halfway before < real * 2 ^ 1076) := by
  rw [contains_rounding_iff, lower_mul_binade succ] at contains
  split at contains
  · next even => exact ⟨contains.1, fun odd => by omega⟩
  · exact ⟨contains.1.le, fun _ => contains.1⟩

/-- Intervals meet at most at an end, which the odd one of two neighbours leaves to the other. -/
theorem not_contains_of_magnitude_lt (less : left.magnitude < right.magnitude)
    (inLeft : left.rounding.Contains real) : ¬right.rounding.Contains real := by
  intro inRight
  obtain ⟨before, succ⟩ : ∃ before, right.magnitude = before + 1 :=
    Nat.exists_eq_add_one_of_ne_zero (by omega)
  obtain ⟨atMost, below⟩ := inLeft.le_halfway
  obtain ⟨atLeast, above⟩ := inRight.halfway_le succ
  have neighbours : left.magnitude = before := by
    have reaches : halfway before ≤ halfway left.magnitude := by
      exact_mod_cast atLeast.trans atMost
    have := halfway_strictMono.le_iff_le.mp reaches
    omega
  rw [neighbours] at atMost below
  rcases Nat.mod_two_eq_zero_or_one before with even | odd
  · exact absurd (above (by omega)) (not_lt.mpr atMost)
  · exact absurd (below odd) (not_lt.mpr atLeast)

theorem magnitude_eq_of_contains (inLeft : left.rounding.Contains real)
    (inRight : right.rounding.Contains real) : left.magnitude = right.magnitude := by
  rcases Nat.lt_trichotomy left.magnitude right.magnitude with less | same | greater
  · exact absurd inRight (not_contains_of_magnitude_lt less inLeft)
  · exact same
  · exact absurd inLeft (not_contains_of_magnitude_lt greater inRight)

/-! ## Shortest decimals -/

theorem contains_rounding_centre (number : Binary64) :
    number.rounding.Contains (number.rounding.centre * (2 : ℚ) ^ number.rounding.exponent) := by
  have positive : (0 : ℚ) < 2 ^ number.rounding.exponent := zpow_pos (by norm_num) _
  have lower : number.rounding.lower ≤ number.rounding.centre := Nat.sub_le ..
  have upper : number.rounding.centre < number.rounding.upper := by simp [rounding]
  rw [Rounding.Contains, mul_le_mul_iff_left₀ positive, mul_le_mul_iff_left₀ positive,
    mul_lt_mul_iff_left₀ positive, mul_lt_mul_iff_left₀ positive]
  split
  · exact ⟨by exact_mod_cast lower, by exact_mod_cast upper.le⟩
  · next isOpen =>
    have odd : number.mantissa % 2 = 1 := by
      simpa [rounding] using isOpen
    have lower : number.rounding.lower < number.rounding.centre := by
      simp only [rounding]
      split <;> omega
    exact ⟨by exact_mod_cast lower, by exact_mod_cast upper⟩

/-- The shortest decimal rounds to its number. -/
theorem contains_value_shortest (number : Binary64) :
    number.rounding.Contains number.shortest.value :=
  number.rounding.contains_shortest number.contains_rounding_centre _ _

end

end Forecast.Binary64
