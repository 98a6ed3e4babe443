import SheetRecall.Workbook.Archive
import SheetRecall.Workbook.Chunk
import SheetRecall.Workbook.Sheet

/-!
# Chunks of a workbook

Every row of data in every worksheet that is read becomes a chunk, in the order of the sheets and
their rows; the chunks are numbered through the whole workbook.
-/

namespace SheetRecall.Workbook

/-- A worksheet is read. -/
def isRead (o : Options) (title : String) : Bool :=
  o.allSheets || (o.sheets.map Text.lower).contains (Text.lower title)

/-- Numbers the rows of a sheet from `first` on. -/
def chunksFrom (o : Options) (sheet : Sheet) (columns : List (Nat × String)) (first : Nat) :
    List Row → Except Fault (List Chunk)
  | [] => .ok []
  | row :: rest => do
    let data ← sheet.rowData o columns row
    return ⟨first, sheet.title, row.number, data⟩
      :: (← chunksFrom o sheet columns (first + 1) rest)

/-- The chunks of a worksheet, numbered from `first` on. -/
def sheetChunks (o : Options) (first : Nat) (sheet : Sheet) : Except Fault (List Chunk) := do
  if !isRead o sheet.title then return []
  chunksFrom o sheet (← sheet.namedColumns o) first (sheet.dataRows o)

/-- The chunks of worksheets, numbered from `first` on. -/
def chunksOf (o : Options) (first : Nat) : List Sheet → Except Fault (List Chunk)
  | [] => .ok []
  | sheet :: rest => do
    let chunks ← sheetChunks o first sheet
    return chunks ++ (← chunksOf o (first + chunks.length) rest)

/-- What a file holds: worksheets, or bytes that are none. -/
inductive File where
  | workbook (sheets : List Sheet)
  | bytes (content : List Nat)

/-- The file has no content. -/
def File.isEmpty : File → Bool
  | workbook _ => false
  | bytes content => content.isEmpty

/-- The item that every workbook has. -/
def contentTypes : String := "[Content_Types].xml"

/-- The chunks of a file. -/
def decode (o : Options) : File → Except Fault (List Chunk)
  | .workbook sheets => chunksOf o 1 sheets
  | .bytes content =>
    match Archive.fault? content with
    | some reason => .error (.noArchive reason)
    | none => .error (.noItem contentTypes)

/-- The media type of workbooks. -/
def mediaType : String := "application/vnd.openxmlformats-officedocument.spreadsheetml.sheet"

/-- A media type is one of workbooks; parameters may follow it. -/
def supports (type : Option String) : Bool :=
  type.any fun type => (Text.lower type).startsWith mediaType

end SheetRecall.Workbook
