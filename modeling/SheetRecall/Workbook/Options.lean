import SheetRecall.Schema.Check

/-!
# Options of the worksheet reader

Which worksheets, rows and columns are read, where the header is, and how columns and cells are
written down.
-/

namespace SheetRecall.Workbook

/-- How worksheets are read. -/
structure Options where
  hasHeader : Bool := true
  /-- The position of the header among the rows that are used. -/
  headerIndex : Nat := 0
  allSheets : Bool := true
  /-- The worksheets that are read, if not all are. -/
  sheets : List String := []
  blankText : String := ""
  dateFormat : String := "%Y-%m-%d"
  cleanHeaders : Bool := true
  /-- What the names of columns without a header start with. -/
  unnamed : String := "Column"
  rowNumbers : Bool := true
  sheetNames : Bool := true
  skipBlankRows : Bool := true
  skipHiddenRows : Bool := true
  skipHiddenColumns : Bool := true
  deriving Repr, DecidableEq

namespace Options

open Schema

/-- A position: an integer that is not negative. -/
def checkPosition (v : Value) : Checked Nat :=
  (atLeast (.int 0) Number.int (checkInt v)).map Int.toNat

/-- The options in a map; what the map does not name has its default. -/
def ofFields (fields : Fields) : Checked Options :=
  let flag (key : String) (default : Bool) := orDefault fields key checkBool default
  let text (key : String) (default : String) := orDefault fields key checkText default
  let d : Options := {}
  (both (flag "use_first_row_as_header" d.hasHeader)
    (both (orDefault fields "header_row_index" checkPosition d.headerIndex)
      (both (flag "process_all_worksheets" d.allSheets)
        (both (orDefault fields "worksheets_to_process" (checkList checkText) d.sheets)
          (both (text "blank_cell_value" d.blankText)
            (both (text "date_format" d.dateFormat)
              (both (flag "normalize_header_names" d.cleanHeaders)
                (both (text "default_column_prefix" d.unnamed)
                  (both (flag "include_row_numbers" d.rowNumbers)
                    (both (flag "include_worksheet_names" d.sheetNames)
                      (both (flag "skip_empty_rows" d.skipBlankRows)
                        (both (flag "skip_hidden_rows" d.skipHiddenRows)
                          (flag "skip_hidden_columns" d.skipHiddenColumns))))))))))))).map
    fun (hasHeader, headerIndex, allSheets, sheets, blankText, dateFormat, cleanHeaders, unnamed,
        rowNumbers, sheetNames, skipBlankRows, skipHiddenRows, skipHiddenColumns) =>
      { hasHeader, headerIndex, allSheets, sheets, blankText, dateFormat, cleanHeaders, unnamed,
        rowNumbers, sheetNames, skipBlankRows, skipHiddenRows, skipHiddenColumns }

end Options

end SheetRecall.Workbook
