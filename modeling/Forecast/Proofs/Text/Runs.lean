import Mathlib.Data.List.Basic

/-!
# Alternating runs

A text in which runs of two kinds of characters take turns is taken apart in one way only, since a
run ends where a character of the other kind stands.
-/

namespace Forecast

variable {α : Type}

theorem takeWhile_append_of_stop {kind : α → Bool} {run rest : List α}
    (within : ∀ item ∈ run, kind item = true) (stops : ∀ item ∈ rest.head?, kind item = false) :
    (run ++ rest).takeWhile kind = run := by
  have stopped : rest.takeWhile kind = [] := by
    cases rest with
    | nil => rfl
    | cons item rest => simp [stops item rfl]
  rw [List.takeWhile_append_of_pos within, stopped, List.append_nil]

/-- The first of two runs that follow each other. -/
theorem append_inj_of_stop (kind : α → Bool) {leftRun rightRun leftRest rightRest : List α}
    (same : leftRun ++ leftRest = rightRun ++ rightRest)
    (left : ∀ item ∈ leftRun, kind item = true) (right : ∀ item ∈ rightRun, kind item = true)
    (leftStops : ∀ item ∈ leftRest.head?, kind item = false)
    (rightStops : ∀ item ∈ rightRest.head?, kind item = false) :
    leftRun = rightRun ∧ leftRest = rightRest := by
  have runs : leftRun = rightRun := by
    rw [← takeWhile_append_of_stop left leftStops, same, takeWhile_append_of_stop right rightStops]
  rw [runs] at same
  exact ⟨runs, List.append_cancel_left same⟩

/-- A run of one kind and a run of the other behind it. -/
structure Turn (kind : α → Bool) (turn : List α × List α) : Prop where
  /-- Neither run is empty. -/
  first_ne : turn.1 ≠ []
  first : ∀ item ∈ turn.1, kind item = true
  second_ne : turn.2 ≠ []
  second : ∀ item ∈ turn.2, kind item = false

/-- Turns one after the other. -/
def turnsText (turns : List (List α × List α)) : List α :=
  turns.flatMap fun turn => turn.1 ++ turn.2

theorem turnsText_cons (turn : List α × List α) (turns : List (List α × List α)) :
    turnsText (turn :: turns) = turn.1 ++ (turn.2 ++ turnsText turns) := by
  simp [turnsText]

section

variable {kind : α → Bool} {turn : List α × List α}

theorem Turn.turnsText_ne_nil (here : Turn kind turn) (turns : List (List α × List α)) :
    turnsText (turn :: turns) ≠ [] := by
  simp [turnsText_cons, here.first_ne]

theorem Turn.second_stops (here : Turn kind turn) (rest : List α) :
    ∀ item ∈ (turn.2 ++ rest).head?, kind item = false := by
  intro item isHead
  rw [List.head?_append_of_ne_nil _ here.second_ne] at isHead
  exact here.second item (List.mem_of_mem_head? isHead)

theorem turnsText_stops {turns : List (List α × List α)} (each : ∀ turn ∈ turns, Turn kind turn) :
    ∀ item ∈ (turnsText turns).head?, (!kind item) = false := by
  intro item isHead
  cases turns with
  | nil => cases isHead
  | cons turn rest =>
    have here := each turn List.mem_cons_self
    rw [turnsText_cons, List.head?_append_of_ne_nil _ here.first_ne] at isHead
    simp [here.first item (List.mem_of_mem_head? isHead)]

end

/-- Turns are known from their text. -/
theorem turnsText_inj {kind : α → Bool} {left right : List (List α × List α)}
    (leftEach : ∀ turn ∈ left, Turn kind turn) (rightEach : ∀ turn ∈ right, Turn kind turn)
    (same : turnsText left = turnsText right) : left = right := by
  induction left generalizing right with
  | nil =>
    cases right with
    | nil => rfl
    | cons turn rest =>
      exact absurd same.symm ((rightEach turn List.mem_cons_self).turnsText_ne_nil rest)
  | cons leftTurn leftRest ih =>
    cases right with
    | nil => exact absurd same ((leftEach leftTurn List.mem_cons_self).turnsText_ne_nil leftRest)
    | cons rightTurn rightRest =>
      obtain ⟨leftHere, leftLater⟩ := List.forall_mem_cons.mp leftEach
      obtain ⟨rightHere, rightLater⟩ := List.forall_mem_cons.mp rightEach
      rw [turnsText_cons, turnsText_cons] at same
      obtain ⟨firsts, same⟩ := append_inj_of_stop kind same leftHere.first rightHere.first
        (leftHere.second_stops _) (rightHere.second_stops _)
      obtain ⟨seconds, same⟩ := append_inj_of_stop (fun item => !kind item) same
        (by simpa using leftHere.second) (by simpa using rightHere.second)
        (turnsText_stops leftLater) (turnsText_stops rightLater)
      rw [ih leftLater rightLater same, Prod.ext firsts seconds]

end Forecast
