import Forecast.Proofs.Output.Matrix

/-!
# Overflow in matrices

Where overflow is an error, a lookup fails if a position that it computes is not a word.  One that
fails gives `none`, one that finds nothing `some none`.  Cells are looked up only after their row
and column are found within the table, so this never fails.  The start of a row is computed with a
check and its end without one.  The end of a row is the start of the next, so there is just one row
whose start is a word and whose end is not: the last one to start at a word.  It is past the table.
-/

namespace Forecast

namespace Bounded

/-- Sum of words, if it is one. -/
def sum (left right : UInt64) : Option UInt64 :=
  if left.toNat + right.toNat < UInt64.size then some (left + right) else none

theorem sum_eq_some {left right : UInt64} (fits : left.toNat + right.toNat < UInt64.size) :
    sum left right = some (left + right) :=
  if_pos fits

theorem sum_eq_none_iff {left right : UInt64} :
    sum left right = none ↔ UInt64.size ≤ left.toNat + right.toNat := by
  rw [sum, ite_eq_right_iff]
  simp

/-- The cell at a row and a column.  Its position must be a word, and there must be a cell. -/
def cell (matrix : Matrix) (row column : UInt64) : Option (Option Binary64) :=
  if matrix.rows ≤ row.toNat ∨ matrix.columns ≤ column.toNat then some none
  else do
    let start ← matrix.rowStart? row
    let position ← sum start column
    matrix.values[position.toNat]?.map some

/-- The cells of a row, none if its start is not a word.  Its end must be one. -/
def row (matrix : Matrix) (row : UInt64) : Option (Option (List Binary64)) :=
  match matrix.rowStart? row with
  | none => some none
  | some start => (sum start matrix.width).map (matrix.slice? start)

end Bounded

namespace Matrix

/-- Matrices that are built from rows, and may be named. -/
inductive Reachable : Matrix → Prop where
  | stored {table : List (List Binary64)} {matrix : Matrix}
      (accepted : ofRows table = .ok matrix) : Reachable matrix
  | named {matrix named : Matrix} (before : Reachable matrix) {names : List Dimension}
      (accepted : matrix.withNames names = .ok named) : Reachable named

theorem Reachable.exists_stores {matrix : Matrix} (reachable : matrix.Reachable) :
    ∃ table, matrix.Stores table := by
  induction reachable with
  | stored accepted => exact ⟨_, (ofRows_eq_ok_iff.mp accepted).1⟩
  | named _ accepted ih =>
    obtain ⟨table, stores⟩ := ih
    exact ⟨table, stores.withNames accepted⟩

/-- The last row that starts at a word. -/
def lastStarted (matrix : Matrix) : Nat := (UInt64.size - 1) / matrix.columns

variable {matrix : Matrix} {table : List (List Binary64)}

namespace Stores

theorem le_lastStarted_iff (stores : matrix.Stores table) {row : Nat} :
    row ≤ matrix.lastStarted ↔ row * matrix.columns < UInt64.size := by
  have positive : 0 < UInt64.size := by decide
  rw [lastStarted, Nat.le_div_iff_mul_le stores.columns_pos]
  omega

variable (stores : matrix.Stores table) (fits : matrix.values.length < UInt64.size)
include stores fits

theorem rows_le_lastStarted : matrix.rows ≤ matrix.lastStarted := by
  rwa [stores.le_lastStarted_iff, ← stores.length_values]

/-- No position of a cell overflows. -/
theorem cell_eq (row column : UInt64) :
    Bounded.cell matrix row column = some (matrix.get? row column) := by
  by_cases beyond : matrix.rows ≤ row.toNat ∨ matrix.columns ≤ column.toNat
  · rw [Bounded.cell, get?, if_pos beyond, if_pos beyond]
  · have lookup : matrix.get? row column
        = matrix.values[(row * matrix.width + column).toNat]? := if_neg beyond
    have within : row.toNat < matrix.rows ∧ column.toNat < matrix.columns := by omega
    have room := stores.stop_le within.1
    have started : matrix.rowStart? row = some (row * matrix.width) :=
      stores.rowStart?_eq_some fits (by omega)
    have position := stores.toNat_of_rowStart? fits started
    have added : Bounded.sum (row * matrix.width) column = some (row * matrix.width + column) :=
      Bounded.sum_eq_some (by omega)
    obtain ⟨value, isCell⟩ :=
      Option.isSome_iff_exists.mp (((stores.shows fits).isSome_get?_iff row column).mpr within)
    rw [Bounded.cell, if_neg beyond]
    simp only [started, Option.bind_eq_bind, Option.bind_some, added, ← lookup, isCell,
      Option.map_some]

/-- The end of a row overflows just if it is the last to start at a word. -/
theorem row_eq (row : UInt64) :
    Bounded.row matrix row
      = if row.toNat = matrix.lastStarted then none else some (matrix.row? row) := by
  -- The end of a row is the start of the next one.
  have startsAtWord : row.toNat ≤ matrix.lastStarted ↔
      row.toNat * matrix.columns < UInt64.size := stores.le_lastStarted_iff
  have stopsAtWord : row.toNat + 1 ≤ matrix.lastStarted ↔
      row.toNat * matrix.columns + matrix.columns < UInt64.size := by
    rw [stores.le_lastStarted_iff, Nat.succ_mul]
  cases started : matrix.rowStart? row with
  | none =>
    have past : row.toNat ≠ matrix.lastStarted := by
      intro isLast
      have isWord := startsAtWord.mp (Nat.le_of_eq isLast)
      rw [stores.rowStart?_eq_some fits isWord] at started
      cases started
    rw [Bounded.row, row?, started, if_neg past]
    rfl
  | some start =>
    have position := stores.toNat_of_rowStart? fits started
    have isWord : start.toNat < UInt64.size := start.toNat_lt
    have width := stores.toNat_width fits
    simp only [Bounded.row, row?, started, Option.bind_eq_bind, Option.bind_some]
    by_cases isLast : row.toNat = matrix.lastStarted
    · have overflows : Bounded.sum start matrix.width = none :=
        Bounded.sum_eq_none_iff.mpr (by omega)
      rw [if_pos isLast, overflows, Option.map_none]
    · have added : Bounded.sum start matrix.width = some (matrix.rowStop start) :=
        Bounded.sum_eq_some (by omega)
      rw [if_neg isLast, added, Option.map_some]

end Stores

/-- Of all lookups in a matrix just one fails where overflow is an error: that of the last row that
starts at a word, which is none of the table.  All others give what they give where words wrap
around, and nothing past the table. -/
theorem Reachable.overflow_at_lastStarted (reachable : matrix.Reachable)
    (fits : matrix.values.length < UInt64.size) :
    (∀ row column, Bounded.cell matrix row column = some (matrix.get? row column))
      ∧ (∀ row, Bounded.row matrix row
        = if row.toNat = matrix.lastStarted then none else some (matrix.row? row))
      ∧ (matrix.rows ≤ matrix.lastStarted ∧ matrix.lastStarted < UInt64.size)
      ∧ (∀ row column, matrix.rows ≤ row.toNat ∨ matrix.columns ≤ column.toNat →
        Bounded.cell matrix row column = some none)
      ∧ ∀ row, matrix.rows ≤ row.toNat → row.toNat ≠ matrix.lastStarted →
        Bounded.row matrix row = some none := by
  obtain ⟨table, stores⟩ := reachable.exists_stores
  have rowLookup := stores.row_eq fits
  refine ⟨stores.cell_eq fits, rowLookup, ⟨stores.rows_le_lastStarted fits, ?_⟩, ?_, ?_⟩
  · exact Nat.lt_of_le_of_lt (Nat.div_le_self _ _) (by decide)
  · exact fun row column beyond => if_pos beyond
  · intro row beyond notLast
    rw [rowLookup, if_neg notLast, stores.row?_eq fits,
      List.getElem?_eq_none (stores.rows ▸ beyond)]

/-- With two columns, the row that overflows starts two cells before 2 ^ 64.  The row before it ends
there, and is just not found. -/
theorem Reachable.overflow_at_lastStarted_named :
    ∃ stored named, ofRows threeRows = .ok stored
      ∧ stored.withNames (List.replicate 6 .observedValue) = .ok named
      ∧ Bounded.row named 0x7FFFFFFFFFFFFFFF = none
      ∧ Bounded.row named 0x7FFFFFFFFFFFFFFE = some none
      ∧ Bounded.row named 2 = some (some [.nan, .one])
      ∧ Bounded.cell named 0xFFFFFFFFFFFFFFFF 1 = some none := by
  refine ⟨_, _, rfl, rfl, ?_⟩
  have stored : Reachable _ := .stored (rfl : ofRows threeRows = _)
  have reachable : Reachable _ :=
    .named stored (rfl : Matrix.withNames _ (List.replicate 6 .observedValue) = _)
  obtain ⟨-, rows, -, noCells, noRows⟩ := Reachable.overflow_at_lastStarted reachable (by decide)
  exact ⟨(rows 0x7FFFFFFFFFFFFFFF).trans (if_pos (by decide)),
    noRows 0x7FFFFFFFFFFFFFFE (by decide) (by decide), (rows 2).trans (if_neg (by decide)),
    noCells 0xFFFFFFFFFFFFFFFF 1 (.inl (by decide))⟩

/-- The greatest word overflows as a row of a matrix of one cell. -/
theorem row_overflows :
    ∃ matrix, ofRows [[.one]] = .ok matrix
      ∧ matrix.rows ≤ (0xFFFFFFFFFFFFFFFF : UInt64).toNat
      ∧ matrix.rowStart? 0xFFFFFFFFFFFFFFFF = some 0xFFFFFFFFFFFFFFFF
      ∧ UInt64.size ≤ (0xFFFFFFFFFFFFFFFF : UInt64).toNat + matrix.width.toNat
      ∧ Bounded.row matrix 0xFFFFFFFFFFFFFFFF = none :=
  ⟨_, rfl, by decide, rfl, by decide, rfl⟩

end Matrix

end Forecast
