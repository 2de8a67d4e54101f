import Forecast.Binary64.Text
import Forecast.Proofs.Binary64.Rounding

/-!
# Texts of numbers

Numbers with the same text are the same.  The sign is the first character or is not there, a text of
digits is read back to a real that rounds to one magnitude only, and what is not read is infinite.
-/

namespace Forecast.Binary64

/-- The text of a number without its sign. -/
def magnitudeText (number : Binary64) : List Char :=
  if number.isFinite then
    if number.magnitude = 0 then ['0'] else number.shortest.positional
  else ['i', 'n', 'f']

/-- Characters of texts: digits, a point, a sign and the letters of infinity. -/
def isTextChar (char : Char) : Bool :=
  Digits.isDigit char || ['.', '-', 'i', 'n', 'f'].contains char

variable {number left right : Binary64}

theorem toList_text (isNumber : number.isNaN = false) :
    number.text.toList
      = (if number.isNegative then ['-'] else []) ++ number.magnitudeText := by
  simp only [text, magnitudeText, isNumber, signed]
  cases number.isNegative <;> cases number.isFinite <;> simp <;> split <;> simp

theorem isDigit_or_letter_of_mem_magnitudeText {char : Char}
    (member : char ∈ number.magnitudeText) :
    Digits.isDigit char = true ∨ char ∈ ['.', 'i', 'n', 'f'] := by
  rw [magnitudeText] at member
  split at member
  · split at member
    · rw [List.mem_singleton.mp member]
      exact .inl rfl
    · refine ((Decimal.numeral_positional _).isDigit_or_point member).imp_right ?_
      rintro rfl
      decide
  · exact .inr (List.mem_cons_of_mem _ member)

theorem magnitudeText_ne_nil (number : Binary64) : number.magnitudeText ≠ [] := by
  rw [magnitudeText]
  split
  · split
    · simp
    · exact (Decimal.numeral_positional _).ne_nil
  · simp

theorem isTextChar_of_mem_text (isNumber : number.isNaN = false) {char : Char}
    (member : char ∈ number.text.toList) : isTextChar char = true := by
  rw [toList_text isNumber] at member
  rcases List.mem_append.mp member with isSign | inMagnitude
  · split at isSign
    · rw [List.mem_singleton.mp isSign]
      rfl
    · cases isSign
  · rw [isTextChar, Bool.or_eq_true]
    refine (isDigit_or_letter_of_mem_magnitudeText inMagnitude).imp_right fun letter => ?_
    rw [List.contains_iff_mem]
    simp only [List.mem_cons] at letter ⊢
    tauto

theorem text_toList_ne_nil (isNumber : number.isNaN = false) : number.text.toList ≠ [] := by
  simp [toList_text isNumber, magnitudeText_ne_nil]

/-- The text of a finite magnitude is read back to a real that rounds to it. -/
theorem contains_value_of_magnitudeText (finite : number.isFinite = true) :
    ∃ read, decimal? number.magnitudeText = some read
      ∧ number.rounding.Contains read.value := by
  rw [magnitudeText, if_pos finite]
  split
  · next isZero =>
    refine ⟨⟨0, 0⟩, rfl, ?_⟩
    have centre : number.rounding.centre = 0 := by
      simp [rounding, mantissa_eq_significand, significand, isZero]
    have contains := number.contains_rounding_centre
    simpa [centre, Decimal.value] using contains
  · obtain ⟨read, isRead, same⟩ := number.shortest.numeral_positional.read
    exact ⟨read, isRead, same ▸ number.contains_value_shortest⟩

/-- Finite magnitudes are the ones whose text is read back. -/
theorem isSome_decimal?_magnitudeText (number : Binary64) :
    (decimal? number.magnitudeText).isSome = number.isFinite := by
  cases finite : number.isFinite with
  | false =>
    rw [magnitudeText, finite]
    rfl
  | true =>
    obtain ⟨read, isRead, -⟩ := contains_value_of_magnitudeText finite
    rw [isRead, Option.isSome_some]

theorem magnitude_eq_infinite (isNumber : number.isNaN = false)
    (infinite : number.isFinite = false) : number.magnitude = Binary64.infinite := by
  simp only [isNaN, isFinite, decide_eq_false_iff_not] at isNumber infinite
  omega

theorem magnitude_eq_of_magnitudeText (leftNumber : left.isNaN = false)
    (rightNumber : right.isNaN = false) (same : left.magnitudeText = right.magnitudeText) :
    left.magnitude = right.magnitude := by
  have finiteness : left.isFinite = right.isFinite := by
    rw [← isSome_decimal?_magnitudeText, same, isSome_decimal?_magnitudeText]
  cases rightFinite : right.isFinite with
  | false =>
    rw [magnitude_eq_infinite leftNumber (finiteness.trans rightFinite),
      magnitude_eq_infinite rightNumber rightFinite]
  | true =>
    obtain ⟨leftRead, isLeftRead, inLeft⟩ :=
      contains_value_of_magnitudeText (finiteness.trans rightFinite)
    obtain ⟨rightRead, isRightRead, inRight⟩ := contains_value_of_magnitudeText rightFinite
    obtain rfl : rightRead = leftRead := by
      rw [same, isRightRead] at isLeftRead
      exact Option.some.inj isLeftRead
    exact magnitude_eq_of_contains inLeft inRight

theorem head?_magnitudeText_ne_minus (number : Binary64) :
    number.magnitudeText.head? ≠ some '-' := by
  intro isHead
  have := isDigit_or_letter_of_mem_magnitudeText (List.mem_of_mem_head? isHead)
  revert this
  decide

/-- Texts tell all numbers apart, zeros by their sign. -/
theorem text_inj (leftNumber : left.isNaN = false) (rightNumber : right.isNaN = false)
    (same : left.text = right.text) : left = right := by
  have chars := congrArg String.toList same
  rw [toList_text leftNumber, toList_text rightNumber] at chars
  have leftHead := left.head?_magnitudeText_ne_minus
  have rightHead := right.head?_magnitudeText_ne_minus
  have signs : left.isNegative = right.isNegative := by
    cases leftSign : left.isNegative <;> cases rightSign : right.isNegative
    · rfl
    · rw [leftSign, rightSign] at chars
      exact absurd (congrArg List.head? chars) leftHead
    · rw [leftSign, rightSign] at chars
      exact absurd (congrArg List.head? chars).symm rightHead
    · rfl
  rw [signs] at chars
  have magnitudes := magnitude_eq_of_magnitudeText leftNumber rightNumber
    (List.append_cancel_left chars)
  exact rank_inj (by rw [rank, rank, signs, magnitudes])

theorem texts_inj {lefts rights : List Binary64} (leftNumbers : ∀ left ∈ lefts, left.isNaN = false)
    (rightNumbers : ∀ right ∈ rights, right.isNaN = false)
    (same : lefts.map (·.text.toList) = rights.map (·.text.toList)) : lefts = rights := by
  induction lefts generalizing rights with
  | nil => exact (List.map_eq_nil_iff.mp same.symm).symm
  | cons left lefts ih =>
    cases rights with
    | nil => cases same
    | cons right rights =>
      rw [List.forall_mem_cons] at leftNumbers rightNumbers
      obtain ⟨texts, same⟩ := List.cons.inj same
      rw [text_inj leftNumbers.1 rightNumbers.1 (String.toList_inj.mp texts),
        ih leftNumbers.2 rightNumbers.2 same]

end Forecast.Binary64
