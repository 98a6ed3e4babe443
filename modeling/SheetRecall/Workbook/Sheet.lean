import SheetRecall.Column.Name
import SheetRecall.Workbook.Cell
import SheetRecall.Workbook.Options

/-!
# Worksheets

A worksheet is a grid of cells, some rows and columns of which may be hidden.  What is read of it
is its used part: the columns that hold anything, and the rows from the first to the last that hold
anything.  Rows and columns keep their positions in the sheet; a position counts from 0.
-/

namespace SheetRecall.Workbook

/-- A worksheet. -/
structure Sheet where
  title : String
  rows : List (List Cell)
  /-- The numbers of the hidden rows, counted from 1. -/
  hiddenRows : List Nat := []
  /-- The letters of the hidden columns. -/
  hiddenColumns : List String := []

/-- The letters of a column: after `Z` comes `AA`. -/
def columnLetters (column : Nat) : List Char :=
  let last := Char.ofNat ('A'.toNat + column % 26)
  if _ : column < 26 then [last] else columnLetters (column / 26 - 1) ++ [last]
termination_by column
decreasing_by omega

/-- The cell of a row in a column; a short row ends in blanks. -/
def cellAt (cells : List Cell) (column : Nat) : Cell := (cells[column]?).getD (.value .null)

/-- A row of a sheet and its position. -/
structure Row where
  position : Nat
  cells : List Cell

/-- The rows of a grid, with their positions. -/
def numbered (first : Nat) : List (List Cell) → List Row
  | [] => []
  | cells :: rest => ⟨first, cells⟩ :: numbered (first + 1) rest

/-- The number of a row, counted from 1. -/
def Row.number (row : Row) : Nat := row.position + 1

namespace Sheet

/-- The number of columns. -/
def width (sheet : Sheet) : Nat := sheet.rows.foldl (fun w cells => max w cells.length) 0

/-- The rows that are looked at. -/
def visibleRows (o : Options) (sheet : Sheet) : List Row :=
  (numbered 0 sheet.rows).filter fun row =>
    !(o.skipHiddenRows && sheet.hiddenRows.contains row.number)

/-- The columns that are looked at. -/
def visibleColumns (o : Options) (sheet : Sheet) : List Nat :=
  (List.range sheet.width).filter fun column =>
    !(o.skipHiddenColumns && sheet.hiddenColumns.contains (String.ofList (columnLetters column)))

/-- The columns that hold anything in the rows that are looked at. -/
def usedColumns (o : Options) (sheet : Sheet) : List Nat :=
  let rows := sheet.visibleRows o
  (sheet.visibleColumns o).filter fun column =>
    rows.any fun row => !(cellAt row.cells column).isBlank

/-- A row holds nothing in the given columns. -/
def blankIn (columns : List Nat) (row : Row) : Bool :=
  columns.all fun column => (cellAt row.cells column).isBlank

/-- The rows from the first to the last that hold anything. -/
def usedRows (o : Options) (sheet : Sheet) : List Row :=
  let blank := blankIn (sheet.usedColumns o)
  (((sheet.visibleRows o).dropWhile blank).reverse.dropWhile blank).reverse

/-- The row with the names of the columns. -/
def header? (o : Options) (sheet : Sheet) : Option Row :=
  if o.hasHeader then (sheet.usedRows o)[o.headerIndex]? else none

/-- The rows with data. -/
def dataRows (o : Options) (sheet : Sheet) : List Row :=
  let rows := sheet.usedRows o
  let body := if o.hasHeader then rows.drop (o.headerIndex + 1) else rows
  let blank := blankIn (sheet.usedColumns o)
  body.filter fun row => !(o.skipBlankRows && blank row)

/-! ## Names of columns -/

/-- The name that a header cell gives. -/
def headerText (o : Options) (cell : Cell) : Except Fault String := do
  if ← cell.holdsNothing then return ""
  return if o.cleanHeaders then Column.clean cell.text else cell.text

/-- The name of a column: that of the header, unless there is none. -/
def columnName (o : Options) (header : Option Row) (column : Nat) : Except Fault String := do
  let name ← match header with
    | some row => headerText o (cellAt row.cells column)
    | none => pure ""
  return if (Text.trim name).isEmpty then o.unnamed ++ toString (column + 1) else name

/-- The columns that are used, with their names. -/
def namedColumns (o : Options) (sheet : Sheet) : Except Fault (List (Nat × String)) :=
  let header := sheet.header? o
  (sheet.usedColumns o).mapM fun column => do return (column, ← columnName o header column)

/-! ## Rows of data -/

/-- The column with the title of the sheet. -/
def titleColumn : String := "_worksheet"

/-- The column with the number of the row. -/
def numberColumn : String := "_rowNumber"

/-- What is said of every row. -/
def rowFrame (o : Options) (sheet : Sheet) (row : Row) : Fields :=
  (if o.sheetNames then [(titleColumn, .text sheet.title)] else [])
    ++ (if o.rowNumbers then [(numberColumn, .int row.number)] else [])

/-- The values of a row by column; of two columns with one name the later one stands. -/
def rowData (o : Options) (sheet : Sheet) (columns : List (Nat × String)) (row : Row) :
    Except Fault Fields :=
  columns.foldlM
    (fun data column => do
      return data.put column.2
        (← (cellAt row.cells column.1).toValue o.dateFormat o.blankText))
    (sheet.rowFrame o row)

end Sheet

end SheetRecall.Workbook
