import Mathlib.Data.List.ReduceOption
import Forecast.Proofs.Binary64.Text
import Forecast.Proofs.Text.Replacement
import Forecast.Proofs.Threshold.Acceptance
import Forecast.Threshold.Text

/-!
# File names of thresholds

The text of a threshold leads to each of its bounds with words of its layout: its condition, and
whether it has values, probabilities or both.  Spelling signs out changes words only, and does not
make two layouts alike.  Words and numbers share no character, so a file name tells its layout and
its bounds.
-/

namespace Forecast.Threshold

/-! ## Spelling -/

/-- Characters as part of a file name. -/
def spelled (chars : List Char) : List Char :=
  (replaceEach fileNameSpellings chars).filter fun char => !isBracket char

theorem toList_fileName (threshold : Threshold) :
    threshold.fileName.toList = spelled threshold.text.toList :=
  String.toList_ofList

/-- Every sign is spelled out, and no spelling has one. -/
theorem sign_spelled {char : Char} (sign : char ∈ [' ', '<', '>']) :
    (∀ spelling ∈ fileNameSpellings, char ∉ spelling.2)
      ∧ ∃ spelling ∈ fileNameSpellings, spelling.1 = [char] := by
  simp only [List.mem_cons, List.not_mem_nil, or_false] at sign
  rcases sign with rfl | rfl | rfl <;> decide

theorem not_mem_spelled {char : Char}
    (forbidden : char ∈ [' ', '<', '>'] ∨ isBracket char = true) (chars : List Char) :
    char ∉ spelled chars := by
  intro member
  obtain ⟨inReplaced, notBracket⟩ := List.mem_filter.mp member
  rcases forbidden with sign | bracket
  · obtain ⟨clean, gone⟩ := sign_spelled sign
    exact not_mem_replaceEach clean (.inr gone) inReplaced
  · simp [bracket] at notBracket

/-- No file name has a blank, a comparison sign, a bracket or a parenthesis, whatever the label. -/
theorem not_mem_fileName (threshold : Threshold) {char : Char}
    (forbidden : char ∈ [' ', '<', '>', '[', ']', '(', ')']) :
    char ∉ threshold.fileName.toList := by
  rw [toList_fileName]
  refine not_mem_spelled ?_ _
  rw [isBracket, List.contains_iff_mem, ← List.mem_append]
  exact forbidden

/-- The characters of numbers are neither spelled out nor left out. -/
theorem isTextChar_foreign {char : Char} (textChar : Binary64.isTextChar char = true) :
    (∀ spelling ∈ fileNameSpellings, char ∉ spelling.1) ∧ isBracket char = false := by
  have patterns : fileNameSpellings.all (fun spelling =>
      spelling.1.all fun char => !Binary64.isTextChar char) = true := by decide
  have brackets : ['[', ']', '(', ')'].all (fun char => !Binary64.isTextChar char) = true := by
    decide
  simp only [List.all_eq_true] at patterns brackets
  refine ⟨fun spelling listed inPattern => ?_, ?_⟩
  · simpa [textChar] using patterns spelling listed char inPattern
  · rw [Bool.eq_false_iff, isBracket, Ne, List.contains_iff_mem]
    intro bracket
    simpa [textChar] using brackets char bracket

/-- The text of a number stays as it is and parts what is spelled out around it. -/
theorem spelled_append_text {number : Binary64} (isNumber : number.isNaN = false)
    (before after : List Char) :
    spelled (before ++ (number.text.toList ++ after))
      = spelled before ++ (number.text.toList ++ spelled after) := by
  have foreign : ∀ char ∈ number.text.toList,
      (∀ spelling ∈ fileNameSpellings, char ∉ spelling.1) ∧ isBracket char = false :=
    fun _ inText => isTextChar_foreign (Binary64.isTextChar_of_mem_text isNumber inText)
  have kept : number.text.toList.filter (fun char => !isBracket char) = number.text.toList := by
    rw [List.filter_eq_self]
    intro char inText
    simp [(foreign char inText).2]
  have apart := @replaceEach_append_run before _ after fileNameSpellings
    (fun spelling listed char inText => (foreign char inText).1 spelling listed)
    (Binary64.text_toList_ne_nil isNumber) (by decide)
  rw [spelled, apart, List.filter_append, List.filter_append, kept]
  rfl

/-! ## Layouts -/

/-- What the words of a text depend on. -/
structure Layout where
  operator : Operator
  hasValues : Bool
  hasProbabilities : Bool
deriving DecidableEq

namespace Layout

/-- Layouts with bounds. -/
def all : List Layout :=
  Operator.all.flatMap fun operator => [⟨operator, true, true⟩, ⟨operator, true, false⟩,
    ⟨operator, false, true⟩]

theorem mem_all {layout : Layout} (bounded : layout.hasValues || layout.hasProbabilities) :
    layout ∈ all := by
  obtain ⟨operator, hasValues, hasProbabilities⟩ := layout
  cases operator <;> cases hasValues <;> cases hasProbabilities <;> first | decide | cases bounded

/-- What leads to each bound. -/
def leads (layout : Layout) : List String :=
  match decide (layout.operator = .between), layout.hasValues, layout.hasProbabilities with
  | true, true, true => [">= ", " [Pr = ", "] && < ", " [Pr = "]
  | true, true, false => [">= ", " && < "]
  | true, false, true => ["Pr >= ", " && < "]
  | false, true, true => [layout.operator.symbol ++ " ", " [Pr = "]
  | false, true, false => [layout.operator.symbol ++ " "]
  | false, false, true => ["Pr " ++ layout.operator.symbol ++ " "]
  | _, false, false => []

/-- What follows the last bound. -/
def closing (layout : Layout) : String :=
  if layout.hasValues && layout.hasProbabilities then "]" else ""

/-- What leads to each bound in a file name. -/
def words (layout : Layout) : List (List Char) := layout.leads.map fun lead => spelled lead.toList

theorem spelled_closing (layout : Layout) : spelled layout.closing.toList = [] := by
  rw [closing]
  split <;> decide +kernel

/-- Layouts are spelled differently. -/
theorem nodup_words : (all.map words).Nodup := by decide +kernel

theorem words_inj {left right : Layout} (leftListed : left ∈ all) (rightListed : right ∈ all)
    (same : left.words = right.words) : left = right :=
  List.inj_on_of_nodup_map nodup_words leftListed rightListed same

/-- Words have characters, but none that numbers have. -/
theorem words_foreign : all.all (fun layout => layout.words.all fun word =>
    !word.isEmpty && word.all fun char => !Binary64.isTextChar char) = true := by
  decide +kernel

end Layout

/-! ## Thresholds -/

/-- A threshold whose text shows all that it is. -/
structure Nameable (threshold : Threshold) : Prop where
  produced : threshold.Produced
  unlabelled : threshold.label = none
  /-- The threshold is not shown as the one of all data. -/
  notAllData : threshold.isAllData = false
  /-- No bound is a NaN, whose payload no text shows. -/
  numbers : ∀ bounds ∈ threshold.bounds,
    bounds.lower.isNaN = false ∧ ∀ upper ∈ bounds.upper, upper.isNaN = false

/-- The forms of thresholds without a label. -/
inductive Form : Threshold → Prop where
  | value {operator : Operator} (single : operator ≠ .between) (value : Binary64) :
      Form ⟨operator, some ⟨value, none⟩, none, none⟩
  | probability {operator : Operator} (single : operator ≠ .between) (probability : Binary64) :
      Form ⟨operator, none, some ⟨probability, none⟩, none⟩
  | quantile {operator : Operator} (single : operator ≠ .between) (value probability : Binary64) :
      Form ⟨operator, some ⟨value, none⟩, some ⟨probability, none⟩, none⟩
  | betweenValues (lower upper : Binary64) :
      Form ⟨.between, some ⟨lower, some upper⟩, none, none⟩
  | betweenProbabilities (lower upper : Binary64) :
      Form ⟨.between, none, some ⟨lower, some upper⟩, none⟩
  | betweenQuantiles (lowerValue upperValue lowerProbability upperProbability : Binary64) :
      Form ⟨.between, some ⟨lowerValue, some upperValue⟩,
        some ⟨lowerProbability, some upperProbability⟩, none⟩

theorem Shaped.form {threshold : Threshold} (shaped : threshold.Shaped)
    (unlabelled : threshold.label = none) : threshold.Form := by
  obtain ⟨operator, values, probabilities, label⟩ := threshold
  obtain rfl : label = none := unlabelled
  have present := shaped.present
  have upper := shaped.upper
  simp only [Threshold.bounds] at present upper
  by_cases between : operator = .between
  · subst between
    rcases values with _ | ⟨lower, _ | upper⟩ <;>
      rcases probabilities with _ | ⟨lower', _ | upper'⟩ <;>
      simp at present upper <;> constructor
  · rcases values with _ | ⟨lower, _ | upper⟩ <;>
      rcases probabilities with _ | ⟨lower', _ | upper'⟩ <;>
      simp [between] at present upper <;> constructor <;> exact between

def layout (threshold : Threshold) : Layout :=
  ⟨threshold.operator, threshold.values.isSome, threshold.probabilities.isSome⟩

/-- The bounds in the order in which they are written. -/
def written (threshold : Threshold) : List Binary64 :=
  [threshold.lowerValue?, threshold.lowerProbability?, threshold.upperValue?,
    threshold.upperProbability?].reduceOption

/-- Words and the texts of numbers by turns. -/
def turns (words : List (List Char)) (numbers : List Binary64) : List (List Char × List Char) :=
  words.zip (numbers.map fun number => number.text.toList)

section

variable {threshold : Threshold}

theorem Form.length_written (form : threshold.Form) :
    threshold.written.length = threshold.layout.leads.length := by
  cases form <;>
    simp_all [written, layout, Layout.leads, lowerValue?, lowerProbability?, upperValue?,
      upperProbability?]

theorem Form.exists_of_mem_written (form : threshold.Form) {number : Binary64}
    (member : number ∈ threshold.written) :
    ∃ bounds ∈ threshold.bounds, number = bounds.lower ∨ number ∈ bounds.upper := by
  cases form <;>
    simp_all [written, Threshold.bounds, lowerValue?, lowerProbability?, upperValue?,
      upperProbability?] <;> tauto

theorem Form.toList_boundsText (form : threshold.Form) :
    threshold.boundsText.toList
      = turnsText (turns (threshold.layout.leads.map String.toList) threshold.written)
        ++ threshold.layout.closing.toList := by
  cases form <;>
    simp_all [written, layout, Layout.leads, Layout.closing, lowerValue?, lowerProbability?,
      upperValue?, upperProbability?, boundsText, turns, turnsText]

theorem Form.eq_of_written {left right : Threshold} (leftForm : left.Form) (rightForm : right.Form)
    (layouts : left.layout = right.layout) (numbers : left.written = right.written) :
    left = right := by
  cases leftForm <;> cases rightForm <;>
    simp_all [written, layout, lowerValue?, lowerProbability?, upperValue?, upperProbability?]

end

/-- Spelling out a text spells out its words. -/
theorem spelled_turnsText {words : List (List Char)} {numbers : List Binary64}
    (areNumbers : ∀ number ∈ numbers, number.isNaN = false) (closing : List Char) :
    spelled (turnsText (turns words numbers) ++ closing)
      = turnsText (turns (words.map spelled) numbers) ++ spelled closing := by
  induction words generalizing numbers with
  | nil => rfl
  | cons word words ih =>
    cases numbers with
    | nil => rfl
    | cons number numbers =>
      obtain ⟨isNumber, areNumbers⟩ := List.forall_mem_cons.mp areNumbers
      simp only [turns, List.map_cons, List.zip_cons_cons, turnsText_cons,
        List.append_assoc] at ih ⊢
      rw [spelled_append_text isNumber, ih areNumbers]

namespace Nameable

variable {threshold left right : Threshold}

theorem form (named : threshold.Nameable) : threshold.Form :=
  named.produced.shaped.form named.unlabelled

theorem isNumber_of_mem_written (named : threshold.Nameable) {number : Binary64}
    (member : number ∈ threshold.written) : number.isNaN = false := by
  obtain ⟨bounds, present, isBound⟩ := named.form.exists_of_mem_written member
  obtain ⟨lowerNumber, upperNumbers⟩ := named.numbers bounds present
  rcases isBound with rfl | isUpper
  · exact lowerNumber
  · exact upperNumbers number isUpper

theorem layout_mem_all (named : threshold.Nameable) : threshold.layout ∈ Layout.all :=
  Layout.mem_all (by simpa [layout] using named.produced.shaped.present)

theorem toList_fileName (named : threshold.Nameable) :
    threshold.fileName.toList
      = turnsText (turns threshold.layout.words threshold.written) := by
  have own : threshold.text = threshold.boundsText := by
    simp [text, named.notAllData, named.unlabelled]
  rw [Threshold.toList_fileName, own, named.form.toList_boundsText,
    spelled_turnsText fun _ => named.isNumber_of_mem_written, Layout.spelled_closing,
    List.append_nil, List.map_map]
  rfl

/-- Each turn of a file name is a word and the text of a number. -/
theorem turn_of_mem (named : threshold.Nameable) :
    ∀ turn ∈ turns threshold.layout.words threshold.written,
      Turn (fun char => !Binary64.isTextChar char) turn := by
  rintro ⟨word, digits⟩ member
  obtain ⟨isWord, isDigits⟩ := List.of_mem_zip member
  obtain ⟨number, isWritten, rfl⟩ := List.mem_map.mp isDigits
  have isNumber := named.isNumber_of_mem_written isWritten
  have foreign := List.all_eq_true.mp
    (List.all_eq_true.mp Layout.words_foreign _ named.layout_mem_all) word isWord
  rw [Bool.and_eq_true, List.all_eq_true] at foreign
  exact {
    first_ne := by simpa using foreign.1
    first := foreign.2
    second_ne := Binary64.text_toList_ne_nil isNumber
    second := fun char inText => by simp [Binary64.isTextChar_of_mem_text isNumber inText] }

theorem length_words (named : threshold.Nameable) :
    threshold.layout.words.length
      = (threshold.written.map fun number => number.text.toList).length := by
  rw [Layout.words, List.length_map, List.length_map, named.form.length_written]

/-- Two thresholds with the same file name are the same. -/
theorem eq_of_fileName_eq (leftNamed : left.Nameable) (rightNamed : right.Nameable)
    (same : left.fileName = right.fileName) : left = right := by
  have sameTurns : turns left.layout.words left.written
      = turns right.layout.words right.written := by
    refine turnsText_inj leftNamed.turn_of_mem rightNamed.turn_of_mem ?_
    rw [← leftNamed.toList_fileName, ← rightNamed.toList_fileName, same]
  have words := congrArg (List.map Prod.fst) sameTurns
  have texts := congrArg (List.map Prod.snd) sameTurns
  simp only [turns] at words texts
  rw [List.map_fst_zip leftNamed.length_words.le, List.map_fst_zip rightNamed.length_words.le]
    at words
  rw [List.map_snd_zip leftNamed.length_words.ge, List.map_snd_zip rightNamed.length_words.ge]
    at texts
  have numbers : left.written = right.written :=
    Binary64.texts_inj (fun _ => leftNamed.isNumber_of_mem_written)
      (fun _ => rightNamed.isNumber_of_mem_written) texts
  exact leftNamed.form.eq_of_written rightNamed.form
    (Layout.words_inj leftNamed.layout_mem_all rightNamed.layout_mem_all words) numbers

/-- Different thresholds have different file names, which have no blank, comparison sign, bracket or
parenthesis. -/
theorem fileName_identifies (leftNamed : left.Nameable) (rightNamed : right.Nameable) :
    (left.fileName = right.fileName ↔ left = right)
      ∧ ∀ char ∈ [' ', '<', '>', '[', ']', '(', ')'], char ∉ left.fileName.toList :=
  ⟨⟨leftNamed.eq_of_fileName_eq rightNamed, congrArg fileName⟩,
    fun _ forbidden => left.not_mem_fileName forbidden⟩

theorem of_betweenValues {lower upper : Binary64}
    (built : betweenValues lower upper = .ok threshold) (lowerNumber : lower.isNaN = false)
    (upperNumber : upper.isNaN = false) : threshold.Nameable := by
  have produced : threshold.Produced := .build built
  obtain rfl := (build_eq_ok_iff.mp built).1
  refine ⟨produced, rfl, rfl, fun bounds member => ?_⟩
  rw [List.mem_singleton.mp member]
  exact ⟨lowerNumber, by simpa using upperNumber⟩

/-- Ranges from the two zeros have different file names, without the sign of their upper bounds. -/
theorem fileName_identifies_zeros :
    ∃ left right, betweenValues ⟨0x8000000000000000⟩ .one = .ok left
      ∧ betweenValues .zero .one = .ok right
      ∧ left.fileName ≠ right.fileName ∧ '<' ∉ left.fileName.toList := by
  obtain ⟨left, right, leftBuilt, rightBuilt, differ⟩ : ∃ left right,
      betweenValues ⟨0x8000000000000000⟩ .one = .ok left
        ∧ betweenValues .zero .one = .ok right ∧ left ≠ right := ⟨_, _, rfl, rfl, by decide⟩
  obtain ⟨same, clean⟩ := fileName_identifies (of_betweenValues leftBuilt rfl rfl)
    (of_betweenValues rightBuilt rfl rfl)
  exact ⟨left, right, leftBuilt, rightBuilt, mt same.mp differ, clean '<' (by simp)⟩

end Nameable

end Forecast.Threshold
