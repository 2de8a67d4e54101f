/-!
# Double-precision numbers

A number is its 64-bit interchange pattern: a sign bit, an exponent field of 11 bits and a fraction
of 52.  Equality of the type is equality of patterns, so a zero keeps its sign and a NaN its
payload.  Two other comparisons are stated on integers read off the pattern.  The *numeric* one
(`lt`, `le`, `same`) compares positions on the number line and fails on every NaN; the *total* one
(`compareTotal`) compares ranks, which tell all patterns apart (`rank_inj`).
-/

namespace Forecast

/-- A double-precision number, held as its interchange pattern. -/
structure Binary64 where
  /-- Sign, exponent and fraction, from the most significant bit down. -/
  bits : UInt64
deriving DecidableEq, Inhabited

namespace Binary64

/-- Value of the sign bit. -/
def signBit : Nat := 0x8000000000000000

/-- Value of the bit above the fraction. -/
def hiddenBit : Nat := 0x10000000000000

/-- Whether the sign bit is set. -/
def isNegative (number : Binary64) : Bool := decide (signBit ≤ number.bits.toNat)

/-- The pattern without its sign bit. -/
def magnitude (number : Binary64) : Nat := number.bits.toNat % signBit

def exponentField (number : Binary64) : Nat := number.magnitude / hiddenBit

def fraction (number : Binary64) : Nat := number.magnitude % hiddenBit

/-- Magnitude of both infinities. -/
def infinite : Nat := 2047 * hiddenBit

/-- Whether the pattern stands for no number. -/
def isNaN (number : Binary64) : Bool := decide (infinite < number.magnitude)

/-- Whether the pattern stands for a real number. -/
def isFinite (number : Binary64) : Bool := decide (number.magnitude < infinite)

def zero : Binary64 := ⟨0⟩

def one : Binary64 := ⟨0x3FF0000000000000⟩

def infinity : Binary64 := ⟨0x7FF0000000000000⟩

def negativeInfinity : Binary64 := ⟨0xFFF0000000000000⟩

/-- The positive quiet NaN. -/
def nan : Binary64 := ⟨0x7FF8000000000000⟩

/-- Signed magnitude: the order of the real numbers, with both zeros at the origin. -/
def position (number : Binary64) : Int :=
  if number.isNegative then -(number.magnitude : Int) else number.magnitude

/-- Numeric order; nothing is less than a NaN and a NaN is less than nothing. -/
def lt (left right : Binary64) : Bool :=
  !left.isNaN && !right.isNaN && decide (left.position < right.position)

/-- Numeric order or equality; false when either side is a NaN. -/
def le (left right : Binary64) : Bool :=
  !left.isNaN && !right.isNaN && decide (left.position ≤ right.position)

/-- Numeric equality: both zeros are the same number, a NaN is not even itself. -/
def same (left right : Binary64) : Bool :=
  !left.isNaN && !right.isNaN && decide (left.position = right.position)

/-- Numeric equality of two lists, item by item. -/
def sameAll : List Binary64 → List Binary64 → Bool
  | [], [] => true
  | left :: lefts, right :: rights => left.same right && sameAll lefts rights
  | _, _ => false

/-- Rank in the total order of patterns: a negative pattern ranks below zero, the larger its
magnitude the lower. -/
def rank (number : Binary64) : Int :=
  if number.isNegative then -(number.magnitude : Int) - 1 else number.magnitude

/-- The total order: negative NaN, negative infinity, …, −0, 0, …, infinity, NaN. -/
def compareTotal (left right : Binary64) : Ordering := compare left.rank right.rank

instance : Ord Binary64 := ⟨compareTotal⟩

/-- Whether two numbers differ by less than `tolerance`, the difference rounded to the nearest
double. -/
def near (tolerance : Float) (left right : Binary64) : Bool :=
  decide ((Float.ofBits left.bits - Float.ofBits right.bits).abs < tolerance)

theorem magnitude_lt (number : Binary64) : number.magnitude < signBit :=
  Nat.mod_lt _ (by decide)

theorem isNaN_eq_false_of_isFinite {number : Binary64} (finite : number.isFinite = true) :
    number.isNaN = false := by
  simp only [isFinite, isNaN, decide_eq_true_eq, decide_eq_false_iff_not] at *
  omega

/-- The pattern is recovered from its sign and magnitude. -/
theorem toNat_bits (number : Binary64) :
    number.bits.toNat = (if number.isNegative then signBit else 0) + number.magnitude := by
  have bound := number.bits.toNat_lt
  simp only [isNegative, magnitude, decide_eq_true_eq]
  unfold signBit
  split <;> omega

theorem rank_inj {left right : Binary64} (ranks : left.rank = right.rank) : left = right := by
  have leftBits := left.toNat_bits
  have rightBits := right.toNat_bits
  have leftBound := left.magnitude_lt
  have rightBound := right.magnitude_lt
  have bits : left.bits.toNat = right.bits.toNat := by
    simp only [rank] at ranks
    split at ranks <;> split at ranks <;> simp_all <;> omega
  cases left
  cases right
  simpa [UInt64.toNat_inj] using bits

end Binary64

end Forecast
