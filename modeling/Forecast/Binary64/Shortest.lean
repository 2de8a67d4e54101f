import Forecast.Binary64.Basic

/-!
# Shortest decimals

Every finite number `mantissa · 2 ^ exponent` is the nearest double to an interval of reals.  The
shortest decimal is found on grids of multiples of a power of ten, from coarse to fine: the first
grid on which a neighbour of the number lies in that interval wins, of two such neighbours the
nearer, and the upper one when both are equally near.  All comparisons are between products of
natural numbers.
-/

namespace Forecast

/-- The decimal `coefficient · 10 ^ exponent`. -/
structure Decimal where
  /-- All digits, read as one natural number. -/
  coefficient : Nat
  /-- Power of ten of the last digit. -/
  exponent : Int
deriving DecidableEq

namespace Binary64

/-- Integer significand of a finite number, with the hidden bit of a normal one. -/
def mantissa (number : Binary64) : Nat :=
  if number.exponentField = 0 then number.fraction else hiddenBit + number.fraction

/-- Power of two of the last bit of the significand. -/
def exponent (number : Binary64) : Int := max number.exponentField 1 - 1075

/-- A number in quarters of the last bit of its significand, with the ends of the interval of reals
that round to it. -/
structure Rounding where
  lower : Nat
  /-- The number itself. -/
  centre : Nat
  upper : Nat
  /-- Whether the ends round to the number too. -/
  closed : Bool
  /-- Power of two of a quarter. -/
  exponent : Int

/-- The interval of reals that round to a finite number.  It reaches half way to both neighbours,
and its ends belong to it when the significand is even.  Below the least significand of a binade
the lower neighbour is only half as far. -/
def rounding (number : Binary64) : Rounding where
  lower := 4 * number.mantissa - if number.fraction = 0 ∧ 1 < number.exponentField then 1 else 2
  centre := 4 * number.mantissa
  upper := 4 * number.mantissa + 2
  closed := number.mantissa % 2 = 0
  exponent := number.exponent - 2

namespace Rounding

/-- What a number of quarters is multiplied by to be compared on the grid of `10 ^ grid`. -/
def quarterScale (interval : Rounding) (grid : Int) : Nat :=
  Nat.pow 10 (-grid).toNat <<< interval.exponent.toNat

/-- What a multiple of `10 ^ grid` is multiplied by to be compared with quarters. -/
def gridScale (interval : Rounding) (grid : Int) : Nat :=
  Nat.pow 10 grid.toNat <<< (-interval.exponent).toNat

/-- Whether `coefficient · 10 ^ grid` rounds to the number. -/
def holds (interval : Rounding) (grid : Int) (coefficient : Nat) : Bool :=
  let candidate := coefficient * interval.gridScale grid
  let lower := interval.lower * interval.quarterScale grid
  let upper := interval.upper * interval.quarterScale grid
  if interval.closed then decide (lower ≤ candidate ∧ candidate ≤ upper)
  else decide (lower < candidate ∧ candidate < upper)

/-- The multiple of `10 ^ grid` next to the number that rounds to it, if either does. -/
def neighbour? (interval : Rounding) (grid : Int) : Option Nat :=
  let centre := interval.centre * interval.quarterScale grid
  let scale := interval.gridScale grid
  let below := centre / scale
  match interval.holds grid below, interval.holds grid (below + 1) with
  | true, true =>
      if centre - below * scale < (below + 1) * scale - centre then some below
      else some (below + 1)
  | true, false => some below
  | false, true => some (below + 1)
  | false, false => none

/-- The number written out in full: a multiple of a negative power of two is one of the same power
of ten. -/
def full (interval : Rounding) : Decimal :=
  { coefficient :=
      interval.centre * Nat.pow 5 (-interval.exponent).toNat <<< interval.exponent.toNat
    exponent := min interval.exponent 0 }

/-- Walk the grids from coarse to fine, at most `grids` of them. -/
def shortest (interval : Rounding) : Nat → Int → Decimal
  | 0, _ => interval.full
  | grids + 1, grid =>
      match interval.neighbour? grid with
      | some coefficient => ⟨coefficient, grid⟩
      | none => interval.shortest grids (grid - 1)

/-- A grid at least ten times as coarse as the leading decimal digit of the number; 30103 / 100000
lies just above the decimal logarithm of two. -/
def coarsest (interval : Rounding) : Int :=
  (((interval.centre.log2 : Int) + 1 + interval.exponent) * 30103).fdiv 100000 + 1

end Rounding

/-- The shortest decimal that reads back as a finite number other than zero. -/
def shortest (number : Binary64) : Decimal :=
  let interval := number.rounding
  interval.shortest (interval.coarsest - min interval.exponent 0).toNat interval.coarsest

end Binary64

end Forecast
