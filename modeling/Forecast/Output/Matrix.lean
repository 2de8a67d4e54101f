import Forecast.Error

/-!
# Matrices

A table of numbers stored row by row.  Rows and columns are looked up by 64-bit words.  The start
of a row is computed with a check for overflow; the end of it is the start plus the number of
columns, taken modulo 2 ^ 64.
-/

namespace Forecast

/-- A table of numbers. -/
structure Matrix where
  /-- Number of rows. -/
  rows : Nat
  /-- Number of columns. -/
  columns : Nat
  /-- Cells, row by row. -/
  values : List Binary64
  /-- Names of the cells, row by row. -/
  names : Option (List Dimension)
deriving DecidableEq, Inhabited

namespace Matrix

/-- Build a matrix from rows, which must have at least one cell and agree in length. -/
def ofRows : List (List Binary64) → Except DataError Matrix
  | [] => throw (.empty .matrixCells)
  | first :: rest =>
      if first.isEmpty then throw (.empty .matrixCells)
      else if rest.any fun row => row.length != first.length then
        throw (.metadataMismatch .rowLengths)
      else
        pure
          { rows := rest.length + 1
            columns := first.length
            values := (first :: rest).flatten
            names := none }

/-- Name the cells, row by row. -/
def withNames (matrix : Matrix) (names : List Dimension) : Except DataError Matrix :=
  if names.length ≠ matrix.values.length then
    throw (.metadataMismatch (.cellNames matrix.values.length names.length))
  else pure { matrix with names := some names }

/-- Number of columns as a word. -/
def width (matrix : Matrix) : UInt64 := UInt64.ofNat matrix.columns

def get? (matrix : Matrix) (row column : UInt64) : Option Binary64 :=
  if matrix.rows ≤ row.toNat ∨ matrix.columns ≤ column.toNat then none
  else matrix.values[(row * matrix.width + column).toNat]?

/-- Position of the first cell of a row, if it is a word. -/
def rowStart? (matrix : Matrix) (row : UInt64) : Option UInt64 :=
  if row.toNat * matrix.width.toNat < UInt64.size then some (row * matrix.width) else none

/-- Position behind the last cell of a row. -/
def rowStop (matrix : Matrix) (start : UInt64) : UInt64 := start + matrix.width

/-- The cells from one position up to another, if the range is one of the table. -/
def slice? (matrix : Matrix) (start stop : UInt64) : Option (List Binary64) :=
  if start ≤ stop ∧ stop.toNat ≤ matrix.values.length then
    some ((matrix.values.drop start.toNat).take (stop.toNat - start.toNat))
  else none

def row? (matrix : Matrix) (row : UInt64) : Option (List Binary64) := do
  let start ← matrix.rowStart? row
  matrix.slice? start (matrix.rowStop start)

/-- All rows, as they were given. -/
def toRows (matrix : Matrix) : List (List Binary64) :=
  (List.range matrix.rows).map fun row =>
    (matrix.values.drop (row * matrix.columns)).take matrix.columns

/-- Numeric equality of the cells, with the same size and names. -/
def same (left right : Matrix) : Bool :=
  left.rows == right.rows && left.columns == right.columns
    && Binary64.sameAll left.values right.values && left.names == right.names

end Matrix

end Forecast
