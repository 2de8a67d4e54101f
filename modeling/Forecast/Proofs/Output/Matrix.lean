import Forecast.Output.Matrix
import Mathlib.Data.List.Basic

/-!
# Faithful storage of matrices

A matrix holds the cells of its rows end to end.  Rows and cells are looked up by words, and the
positions that are computed from these are taken modulo 2 ^ 64.  Within the table nothing wraps
around, since every position there is that of a cell.  A row past the table starts at or behind its
end; the end of such a row lies behind the table too, or it wraps around and then lies before the
start.  So lookups show the rows as they were given, and nothing else.
-/

namespace Forecast

/-! ## Rows of one length -/

section

variable {α : Type} {table : List (List α)} {width : Nat}

theorem length_flatten_of_widths (widths : ∀ row ∈ table, row.length = width) :
    table.flatten.length = table.length * width := by
  induction table with
  | nil => simp
  | cons first rest ih =>
    obtain ⟨here, later⟩ := List.forall_mem_cons.mp widths
    rw [List.flatten_cons, List.length_append, here, ih later, List.length_cons, Nat.succ_mul,
      Nat.add_comm]

/-- The cells from the start of a row on are those of this row and the rows behind it. -/
theorem drop_flatten_of_widths (widths : ∀ row ∈ table, row.length = width) (index : Nat) :
    table.flatten.drop (index * width) = (table.drop index).flatten := by
  induction index generalizing table with
  | zero => simp
  | succ index ih =>
    cases table with
    | nil => simp
    | cons first rest =>
      obtain ⟨here, later⟩ := List.forall_mem_cons.mp widths
      rw [Nat.succ_mul, Nat.add_comm, ← List.drop_drop, List.flatten_cons, List.drop_left' here,
        ih later, List.drop_succ_cons]

/-- As many cells as a row has, from its start on, are the row. -/
theorem take_drop_flatten_of_widths (widths : ∀ row ∈ table, row.length = width) {index : Nat}
    {row : List α} (found : table[index]? = some row) :
    (table.flatten.drop (index * width)).take width = row := by
  obtain ⟨within, rfl⟩ := List.getElem?_eq_some_iff.mp found
  rw [drop_flatten_of_widths widths, List.drop_eq_getElem_cons within, List.flatten_cons]
  exact List.take_left' (widths _ (List.getElem_mem within))

/-- The cell of a column, counted from the start of a row, is that of the row. -/
theorem getElem?_flatten_of_widths (widths : ∀ row ∈ table, row.length = width)
    {column : Nat} (within : column < width) (index : Nat) :
    table.flatten[index * width + column]? = table[index]?.bind fun row => row[column]? := by
  have here : table[index]? = (table.drop index).head? := List.head?_drop.symm
  rw [← List.getElem?_drop, drop_flatten_of_widths widths, here]
  cases remaining : table.drop index with
  | nil => rfl
  | cons row rest =>
    have member : row ∈ table := List.mem_of_mem_drop (remaining ▸ List.mem_cons_self)
    rw [List.flatten_cons, List.getElem?_append_left (widths row member ▸ within)]
    rfl

end

namespace Matrix

variable {matrix : Matrix} {table : List (List Binary64)}

/-! ## Tables -/

/-- The matrix holds the cells of a table, whatever their names. -/
structure Stores (matrix : Matrix) (table : List (List Binary64)) : Prop where
  rows : matrix.rows = table.length
  /-- There is a row. -/
  nonempty : table ≠ []
  /-- There is a column. -/
  columns_pos : 0 < matrix.columns
  /-- Every row has a cell for each column. -/
  widths : ∀ row ∈ table, row.length = matrix.columns
  values : matrix.values = table.flatten

theorem ofRows_cons_eq_ok_iff {first : List Binary64} {rest : List (List Binary64)} :
    ofRows (first :: rest) = .ok matrix ↔
      first ≠ [] ∧ (∀ row ∈ rest, row.length = first.length)
        ∧ matrix = ⟨rest.length + 1, first.length, (first :: rest).flatten, none⟩ := by
  rw [ofRows]
  by_cases nonempty : first = []
  · simp [nonempty, throw, throwThe, MonadExceptOf.throw]
  · by_cases agree : ∀ row ∈ rest, row.length = first.length
    · have noneOff : (rest.any fun row => row.length != first.length) = false := by
        simpa using agree
      simpa [nonempty, noneOff, pure, Except.pure, eq_comm (b := matrix)] using fun _ => agree
    · have someOff : (rest.any fun row => row.length != first.length) = true := by
        simpa using agree
      simp [nonempty, someOff, agree, throw, throwThe, MonadExceptOf.throw]

/-- A table is stored if it has a cell and its rows agree in length. -/
theorem ofRows_eq_ok_iff :
    ofRows table = .ok matrix ↔ matrix.Stores table ∧ matrix.names = none := by
  cases table with
  | nil => exact ⟨nofun, fun stores => absurd rfl stores.1.nonempty⟩
  | cons first rest =>
    rw [ofRows_cons_eq_ok_iff]
    constructor
    · rintro ⟨nonempty, agree, rfl⟩
      refine ⟨⟨rfl, List.cons_ne_nil _ _, List.length_pos_of_ne_nil nonempty, ?_, rfl⟩, rfl⟩
      exact List.forall_mem_cons.mpr ⟨rfl, agree⟩
    · rintro ⟨⟨rows, -, columnsPos, widths, values⟩, unnamed⟩
      obtain ⟨width, agree⟩ := List.forall_mem_cons.mp widths
      obtain ⟨_, _, _, _⟩ := matrix
      subst rows width values unnamed
      exact ⟨List.ne_nil_of_length_pos columnsPos, agree, rfl⟩

/-- Names are accepted if there is one for every cell. -/
theorem withNames_eq_ok_iff {names : List Dimension} {named : Matrix} :
    matrix.withNames names = .ok named ↔
      names.length = matrix.values.length ∧ named = { matrix with names := some names } := by
  rw [withNames]
  by_cases counted : names.length = matrix.values.length <;>
    simp [counted, throw, throwThe, MonadExceptOf.throw, pure, Except.pure, eq_comm]

namespace Stores

theorem withNames (stores : matrix.Stores table) {names : List Dimension} {named : Matrix}
    (accepted : matrix.withNames names = .ok named) : named.Stores table := by
  obtain ⟨-, rfl⟩ := withNames_eq_ok_iff.mp accepted
  exact { stores with }

theorem length_values (stores : matrix.Stores table) :
    matrix.values.length = matrix.rows * matrix.columns := by
  rw [stores.values, length_flatten_of_widths stores.widths, stores.rows]

/-- The cells of a row in the table lie within those of the matrix. -/
theorem stop_le (stores : matrix.Stores table) {row : Nat} (within : row < matrix.rows) :
    row * matrix.columns + matrix.columns ≤ matrix.values.length := by
  rw [stores.length_values, ← Nat.succ_mul]
  exact Nat.mul_le_mul_right _ within

/-- A row past the table starts at the end of the cells or behind it. -/
theorem le_start (stores : matrix.Stores table) {row : Nat} (beyond : matrix.rows ≤ row) :
    matrix.values.length ≤ row * matrix.columns := by
  rw [stores.length_values]
  exact Nat.mul_le_mul_right _ beyond

/-- All rows, read back from their starts, are those of the table. -/
theorem toRows_eq (stores : matrix.Stores table) : matrix.toRows = table := by
  refine List.ext_getElem? fun index => ?_
  rw [toRows, List.getElem?_map, stores.rows]
  rcases Nat.lt_or_ge index table.length with within | beyond
  · have found := List.getElem?_eq_getElem within
    rw [List.getElem?_range within, Option.map_some, stores.values,
      take_drop_flatten_of_widths stores.widths found, found]
  · rw [List.getElem?_eq_none (List.length_range ▸ beyond), List.getElem?_eq_none beyond]
    rfl

theorem isSome_cell_iff (stores : matrix.Stores table) {row column : Nat} :
    (table[row]?.bind fun cells => cells[column]?).isSome ↔
      row < matrix.rows ∧ column < matrix.columns := by
  rw [stores.rows]
  constructor
  · intro isCell
    obtain ⟨cell, found⟩ := Option.isSome_iff_exists.mp isCell
    obtain ⟨cells, rowFound, cellFound⟩ := Option.bind_eq_some_iff.mp found
    obtain ⟨rowWithin, rfl⟩ := List.getElem?_eq_some_iff.mp rowFound
    obtain ⟨columnWithin, -⟩ := List.getElem?_eq_some_iff.mp cellFound
    exact ⟨rowWithin, stores.widths _ (List.getElem_mem rowWithin) ▸ columnWithin⟩
  · rintro ⟨rowWithin, columnWithin⟩
    have width := stores.widths _ (List.getElem_mem rowWithin)
    rw [List.getElem?_eq_getElem rowWithin, Option.bind_some,
      List.getElem?_eq_getElem (width ▸ columnWithin)]
    rfl

end Stores

/-! ## Positions as words -/

theorem toNat_rowStop (matrix : Matrix) (start : UInt64) :
    (matrix.rowStop start).toNat = (start.toNat + matrix.width.toNat) % UInt64.size :=
  UInt64.toNat_add _ _

theorem slice?_eq_none_iff {start stop : UInt64} :
    matrix.slice? start stop = none ↔
      stop.toNat < start.toNat ∨ matrix.values.length < stop.toNat := by
  rw [slice?, ite_eq_right_iff]
  simp only [reduceCtorEq, imp_false, UInt64.le_iff_toNat_le]
  omega

theorem slice?_eq_some {start stop : UInt64} (ordered : start.toNat ≤ stop.toNat)
    (within : stop.toNat ≤ matrix.values.length) :
    matrix.slice? start stop
      = some ((matrix.values.drop start.toNat).take (stop.toNat - start.toNat)) :=
  if_pos ⟨UInt64.le_iff_toNat_le.mpr ordered, within⟩

namespace Stores

variable (stores : matrix.Stores table) (fits : matrix.values.length < UInt64.size)
include stores fits

theorem toNat_width : matrix.width.toNat = matrix.columns := by
  have room := stores.stop_le (stores.rows ▸ List.length_pos_of_ne_nil stores.nonempty)
  exact UInt64.toNat_ofNat_of_lt' (by omega)

theorem rowStart?_eq_some {row : UInt64} (isWord : row.toNat * matrix.columns < UInt64.size) :
    matrix.rowStart? row = some (row * matrix.width) := by
  rw [rowStart?, stores.toNat_width fits, if_pos isWord]

/-- Where the start of a row is found, it is not wrapped around. -/
theorem toNat_of_rowStart? {row start : UInt64} (started : matrix.rowStart? row = some start) :
    start.toNat = row.toNat * matrix.columns := by
  have width := stores.toNat_width fits
  rw [rowStart?, width] at started
  obtain ⟨isWord, product⟩ := Option.ite_none_right_eq_some.mp started
  rw [← Option.some.inj product, UInt64.toNat_mul, width]
  exact Nat.mod_eq_of_lt isWord

/-! ## Lookups -/

/-- The range of a row within the table is that of its cells. -/
theorem slice?_rowStop {row start : UInt64} (within : row.toNat < matrix.rows)
    (position : start.toNat = row.toNat * matrix.columns) :
    matrix.slice? start (matrix.rowStop start) = table[row.toNat]? := by
  have room := stores.stop_le within
  have stop : (matrix.rowStop start).toNat = start.toNat + matrix.columns := by
    rw [toNat_rowStop, stores.toNat_width fits]
    exact Nat.mod_eq_of_lt (by omega)
  obtain ⟨cells, found⟩ : ∃ cells, table[row.toNat]? = some cells :=
    ⟨_, List.getElem?_eq_getElem (stores.rows ▸ within)⟩
  rw [slice?_eq_some (by omega) (by omega), stop, Nat.add_sub_cancel_left, position, stores.values,
    take_drop_flatten_of_widths stores.widths found, found]

/-- The range of a row past the table ends behind the table, or before its start. -/
theorem slice?_rowStop_of_beyond {row start : UInt64} (beyond : matrix.rows ≤ row.toNat)
    (position : start.toNat = row.toNat * matrix.columns) :
    matrix.slice? start (matrix.rowStop start) = none := by
  have behind := stores.le_start beyond
  have width := stores.toNat_width fits
  have columnsPos := stores.columns_pos
  have isWord : matrix.width.toNat < UInt64.size := matrix.width.toNat_lt
  have startIsWord : start.toNat < UInt64.size := start.toNat_lt
  rw [slice?_eq_none_iff, toNat_rowStop]
  -- A sum of two words wraps around once at most, and then it is less than either of them.
  rcases Nat.lt_or_ge (start.toNat + matrix.width.toNat) UInt64.size with inside | around
  · right
    rw [Nat.mod_eq_of_lt inside]
    omega
  · left
    rw [Nat.mod_eq_sub_mod around]
    exact Nat.lt_of_le_of_lt (Nat.mod_le _ _) (by omega)

/-- A row is looked up as it was given. -/
theorem row?_eq (row : UInt64) : matrix.row? row = table[row.toNat]? := by
  rw [row?, Option.bind_eq_bind]
  rcases Nat.lt_or_ge row.toNat matrix.rows with within | beyond
  · have room := stores.stop_le within
    have started : matrix.rowStart? row = some (row * matrix.width) :=
      stores.rowStart?_eq_some fits (by omega)
    rw [started, Option.bind_some]
    exact stores.slice?_rowStop fits within (stores.toNat_of_rowStart? fits started)
  · rw [List.getElem?_eq_none (stores.rows ▸ beyond), Option.bind_eq_none_iff]
    exact fun start started => stores.slice?_rowStop_of_beyond fits beyond
      (stores.toNat_of_rowStart? fits started)

/-- The position of a cell within the table is computed without wrapping around. -/
theorem toNat_position {row column : UInt64} (rowWithin : row.toNat < matrix.rows)
    (columnWithin : column.toNat < matrix.columns) :
    (row * matrix.width + column).toNat = row.toNat * matrix.columns + column.toNat := by
  have room := stores.stop_le rowWithin
  rw [UInt64.toNat_add, UInt64.toNat_mul, stores.toNat_width fits, Nat.mod_add_mod]
  exact Nat.mod_eq_of_lt (Nat.lt_trans (by omega) fits)

/-- A cell is looked up as it was given. -/
theorem get?_eq (row column : UInt64) :
    matrix.get? row column = table[row.toNat]?.bind fun cells => cells[column.toNat]? := by
  rw [get?]
  split
  · rename_i beyond
    refine (Option.not_isSome_iff_eq_none.mp fun found => ?_).symm
    have within := stores.isSome_cell_iff.mp found
    omega
  · rename_i within
    rw [not_or, Nat.not_le, Nat.not_le] at within
    rw [stores.toNat_position fits within.1 within.2, stores.values]
    exact getElem?_flatten_of_widths stores.widths within.2 _

end Stores

/-! ## Faithfulness -/

/-- What a matrix shows is a table. -/
structure Shows (matrix : Matrix) (table : List (List Binary64)) : Prop where
  rows : matrix.rows = table.length
  columns : ∀ row ∈ table, row.length = matrix.columns
  toRows : matrix.toRows = table
  /-- A cell is that of the table. -/
  get? : ∀ row column : UInt64,
    matrix.get? row column = table[row.toNat]?.bind fun cells => cells[column.toNat]?
  /-- There is one for every row and column. -/
  isSome_get?_iff : ∀ row column : UInt64, (matrix.get? row column).isSome ↔
    row.toNat < matrix.rows ∧ column.toNat < matrix.columns
  /-- A row is that of the table. -/
  row? : ∀ row : UInt64, matrix.row? row = table[row.toNat]?
  isSome_row?_iff : ∀ row : UInt64, (matrix.row? row).isSome ↔ row.toNat < matrix.rows
  /-- Names are taken if there is one for each row and column. -/
  withNames_eq_ok_iff : ∀ (names : List Dimension) (named : Matrix),
    matrix.withNames names = .ok named ↔
      names.length = matrix.rows * matrix.columns ∧ named = { matrix with names := some names }

theorem Stores.shows (stores : matrix.Stores table) (fits : matrix.values.length < UInt64.size) :
    matrix.Shows table where
  rows := stores.rows
  columns := stores.widths
  toRows := stores.toRows_eq
  get? := stores.get?_eq fits
  isSome_get?_iff row column := by rw [stores.get?_eq fits, stores.isSome_cell_iff]
  row? := stores.row?_eq fits
  isSome_row?_iff row := by
    rw [stores.row?_eq fits, stores.rows]
    simp
  withNames_eq_ok_iff names named := by rw [withNames_eq_ok_iff, stores.length_values]

/-- A table is stored just if its first row has a cell and the others agree with it in length.  If
its cells can be counted by a word, all lookups show it, also when the cells have been named. -/
theorem ofRows_faithful (table : List (List Binary64)) :
    ((∃ matrix, ofRows table = .ok matrix) ↔
        ∃ first ∈ table.head?, first ≠ [] ∧ ∀ row ∈ table, row.length = first.length)
      ∧ ∀ matrix, ofRows table = .ok matrix → table.flatten.length < UInt64.size →
        matrix.Shows table
          ∧ ∀ names named, matrix.withNames names = .ok named → named.Shows table := by
  constructor
  · cases table with
    | nil => exact ⟨nofun, nofun⟩
    | cons first rest =>
      simp [ofRows_cons_eq_ok_iff]
  · intro matrix stored fits
    obtain ⟨stores, -⟩ := ofRows_eq_ok_iff.mp stored
    rw [← stores.values] at fits
    refine ⟨stores.shows fits, fun names named accepted => (stores.withNames accepted).shows ?_⟩
    obtain ⟨-, rfl⟩ := withNames_eq_ok_iff.mp accepted
    exact fits

/-- Three rows of two cells. -/
def threeRows : List (List Binary64) := [[.one, .zero], [.zero, .nan], [.nan, .one]]

/-- The row that starts two cells before 2 ^ 64 would end at 0, and is not found. -/
theorem ofRows_faithful_wrapped :
    ∃ matrix, ofRows threeRows = .ok matrix
      ∧ matrix.row? 2 = some [.nan, .one] ∧ matrix.get? 1 1 = some .nan
      ∧ matrix.rowStart? 0x7FFFFFFFFFFFFFFF = some 0xFFFFFFFFFFFFFFFE
      ∧ matrix.rowStop 0xFFFFFFFFFFFFFFFE = 0 ∧ matrix.row? 0x7FFFFFFFFFFFFFFF = none := by
  refine ⟨_, rfl, ?_⟩
  obtain ⟨shows, -⟩ := (ofRows_faithful threeRows).2 _ rfl (by decide)
  exact ⟨shows.row? 2, shows.get? 1 1, rfl, rfl, shows.row? 0x7FFFFFFFFFFFFFFF⟩

end Matrix

end Forecast
