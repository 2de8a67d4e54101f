import Mathlib.Algebra.Order.Field.Rat
import Mathlib.Tactic.FieldSimp
import Mathlib.Tactic.Positivity
import Mathlib.Tactic.Ring
import Forecast.Binary64.Reader
import Forecast.Proofs.Text.Digits

/-!
# Positional numerals

The positional text of a decimal is one run of digits, or two around a point.  It is read back as a
decimal of the same value, though not with the same coefficient and exponent.
-/

namespace Forecast

/-- The rational number that a decimal stands for. -/
def Decimal.value (decimal : Decimal) : ℚ := decimal.coefficient * (10 : ℚ) ^ decimal.exponent

namespace Binary64

open Digits

theorem decimal?_whole {digits : List Char} (run : ∀ char ∈ digits, isDigit char = true)
    (digits_ne : digits ≠ []) : decimal? digits = some ⟨valueOf digits, 0⟩ := by
  simp [decimal?, leading_of_forall_isDigit run, digits_ne]

theorem decimal?_point {whole places : List Char} (wholeRun : ∀ char ∈ whole, isDigit char = true)
    (placesRun : ∀ char ∈ places, isDigit char = true) (digits_ne : whole ++ places ≠ []) :
    decimal? (whole ++ '.' :: places)
      = some ⟨valueOf (whole ++ places), -(places.length : Int)⟩ := by
  have front : leading (whole ++ '.' :: places).length (whole ++ '.' :: places)
      = (whole, '.' :: places) :=
    leading_append_of_stop wholeRun (by simp) (by simp [isDigit])
  simp only [decimal?, front, leading_of_forall_isDigit placesRun, if_neg digits_ne]
  simp

end Binary64

namespace Decimal

open Digits

variable {decimal : Decimal} {chars : List Char}

/-- Digits that stand for a decimal. -/
inductive Numeral (decimal : Decimal) : List Char → Prop where
  | whole {run : List Char} (digits : ∀ char ∈ run, isDigit char = true) (digits_ne : run ≠ [])
      (same : (valueOf run : ℚ) = decimal.value) : Numeral decimal run
  | point {whole places : List Char} (digits : ∀ char ∈ whole ++ places, isDigit char = true)
      (digits_ne : whole ++ places ≠ [])
      (coefficient : valueOf (whole ++ places) = decimal.coefficient)
      (exponent : -(places.length : Int) = decimal.exponent) :
      Numeral decimal (whole ++ '.' :: places)

theorem Numeral.isDigit_or_point (numeral : decimal.Numeral chars) {char : Char}
    (member : char ∈ chars) : isDigit char = true ∨ char = '.' := by
  cases numeral with
  | whole digits => exact .inl (digits char member)
  | point digits =>
    rw [List.mem_append, List.mem_cons, or_left_comm, ← List.mem_append] at member
    exact member.symm.imp_left (digits char)

theorem Numeral.ne_nil (numeral : decimal.Numeral chars) : chars ≠ [] := by
  cases numeral with
  | whole _ digits_ne => exact digits_ne
  | point => simp

theorem Numeral.read (numeral : decimal.Numeral chars) :
    ∃ read, Binary64.decimal? chars = some read ∧ read.value = decimal.value := by
  cases numeral with
  | whole digits digits_ne same =>
    refine ⟨_, Binary64.decimal?_whole digits digits_ne, ?_⟩
    rw [← same, value, zpow_zero, mul_one]
  | point digits digits_ne coefficient exponent =>
    rw [List.forall_mem_append] at digits
    refine ⟨_, Binary64.decimal?_point digits.1 digits.2 digits_ne, ?_⟩
    rw [coefficient, exponent]

theorem value_eq_of_nonneg {decimal : Decimal} (nonneg : 0 ≤ decimal.exponent) :
    decimal.value = (10 ^ decimal.exponent.toNat * decimal.coefficient : Nat) := by
  have exponent : ((decimal.exponent.toNat : Nat) : Int) = decimal.exponent :=
    Int.toNat_of_nonneg nonneg
  rw [value, ← exponent, zpow_natCast, mul_comm]
  push_cast
  rfl

/-- Positional text stands for its decimal. -/
theorem numeral_positional (decimal : Decimal) : decimal.Numeral decimal.positional := by
  have digits : ∀ char ∈ decimal.digits, isDigit char = true := fun _ => isDigit_of_mem_numeral
  have digits_ne : decimal.digits ≠ [] := numeral_ne_nil _
  have coefficient : valueOf decimal.digits = decimal.coefficient := valueOf_numeral _
  have zeros (count : Nat) : ∀ char ∈ List.replicate count '0', isDigit char = true :=
    fun _ => isDigit_of_mem_zeros
  simp only [positional]
  split
  · next whole =>
    refine .whole (List.forall_mem_append.mpr ⟨digits, zeros _⟩) (by simp [digits_ne]) ?_
    rw [valueOf_append_zeros, coefficient, value_eq_of_nonneg (by omega)]
  · split
    · next inside =>
      have halves := decimal.digits.take_append_drop
        (decimal.digits.length - (-decimal.exponent).toNat)
      refine .point ?_ ?_ ?_ ?_
      · rwa [halves]
      · rwa [halves]
      · rwa [halves]
      · rw [List.length_drop]
        omega
    · next before =>
      have front (missing : Nat) : ['0'] ++ (List.replicate missing '0' ++ decimal.digits)
          = List.replicate (missing + 1) '0' ++ decimal.digits := rfl
      show decimal.Numeral (['0'] ++ '.' :: (List.replicate _ '0' ++ decimal.digits))
      refine .point ?_ (List.cons_ne_nil _ _) ?_ ?_
      · rw [front]
        exact List.forall_mem_append.mpr ⟨zeros _, digits⟩
      · rw [front, valueOf_zeros_append, coefficient]
      · rw [List.length_append, List.length_replicate]
        omega

end Decimal

end Forecast
