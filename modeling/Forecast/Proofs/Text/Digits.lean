import Mathlib.Algebra.GroupWithZero.Nat
import Forecast.Proofs.Text.Runs
import Forecast.Text.Digits

/-!
# Reading numerals

The numeral of a number is a run of digits with that value.  Zeros in front of a run leave its value
alone, and each zero behind it multiplies the value by ten.
-/

namespace Forecast.Digits

theorem valueOf_eq_ofDigitChars (digits : List Char) :
    valueOf digits = Nat.ofDigitChars 10 digits 0 := rfl

theorem isDigit_of_mem_numeral {number : Nat} {char : Char} (member : char ∈ numeral number) :
    isDigit char = true :=
  Nat.isDigit_of_mem_toDigits (by decide) (by decide) member

theorem numeral_ne_nil (number : Nat) : numeral number ≠ [] := Nat.toDigits_ne_nil

@[simp] theorem valueOf_numeral (number : Nat) : valueOf (numeral number) = number :=
  Nat.ofDigitChars_ten_toDigits

theorem valueOf_append_zeros (digits : List Char) (zeros : Nat) :
    valueOf (digits ++ List.replicate zeros '0') = 10 ^ zeros * valueOf digits := by
  rw [valueOf_eq_ofDigitChars, Nat.ofDigitChars_append, Nat.ofDigitChars_replicate_zero]
  rfl

theorem valueOf_zeros_append (digits : List Char) (zeros : Nat) :
    valueOf (List.replicate zeros '0' ++ digits) = valueOf digits := by
  rw [valueOf_eq_ofDigitChars, Nat.ofDigitChars_append, Nat.ofDigitChars_replicate_zero]
  rfl

theorem isDigit_of_mem_zeros {zeros : Nat} {char : Char}
    (member : char ∈ List.replicate zeros '0') : isDigit char = true := by
  rw [List.eq_of_mem_replicate member]
  rfl

/-- A run of digits is read up to the first other character. -/
theorem leading_append_of_stop {limit : Nat} {run rest : List Char}
    (digits : ∀ char ∈ run, isDigit char = true) (fits : run.length ≤ limit)
    (stops : ∀ char ∈ rest.head?, isDigit char = false) :
    leading limit (run ++ rest) = (run, rest) := by
  have stopsEarly : ∀ char ∈ (rest.take (limit - run.length)).head?, isDigit char = false := by
    intro char isHead
    rw [List.head?_take] at isHead
    split at isHead
    · cases isHead
    · exact stops char isHead
  have front : ((run ++ rest).take limit).takeWhile isDigit = run := by
    rw [List.take_append, List.take_of_length_le fits, takeWhile_append_of_stop digits stopsEarly]
  simp [leading, front]

theorem leading_of_forall_isDigit {run : List Char} (digits : ∀ char ∈ run, isDigit char = true) :
    leading run.length run = (run, []) := by
  have all : leading run.length (run ++ []) = (run, []) :=
    leading_append_of_stop digits (Nat.le_refl _) (by simp)
  rwa [List.append_nil] at all

end Forecast.Digits
