import SheetRecall.Document.Codec
import SheetRecall.Json.Writer
import SheetRecall.Legacy.Row
import SheetRecall.Value.Convert
import SheetRecall.Value.Display
import SheetRecall.Value.Limits

/-!
# Chunks

One row of a workbook on its way into the store: its values by column, a text that says the same
line by line, and where it comes from.  The record of a chunk carries all three, and the tag of the
file that it was imported from.
-/

namespace SheetRecall.Workbook

/-- A row of a workbook. -/
structure Chunk where
  /-- The number of the chunk in its workbook, counted from 1. -/
  number : Nat
  title : String
  rowNumber : Int
  data : Fields

namespace Chunk

/-- The line of a column. -/
def line (field : String × Value) : String := field.1 ++ ": " ++ field.2.display

/-- The row line by line. -/
def text (c : Chunk) : String :=
  "\n".intercalate
    (("Worksheet: " ++ c.title ++ ", Row: " ++ toString c.rowNumber) :: c.data.map line) ++ "\n"

/-- Where the row comes from. -/
def source (c : Chunk) : Fields :=
  [(Legacy.worksheetNameKey, .text c.title),
   (Legacy.rowNumberKey, .text (toString c.rowNumber))]

/-- The id of the row's record in a file. -/
def recordId (c : Chunk) (fileId : String) : String :=
  fileId ++ "/" ++ c.title ++ "/" ++ toString c.rowNumber

/-- The payload of the row's record. -/
def payload (c : Chunk) (style : Json.Style) : Fields :=
  [(Payload.rowText, .text c.text),
   (Payload.rowData, .text (Json.write style (.map c.data))),
   (Payload.rowSource, .text (Json.write style (.map c.source)))]

/-- The record of the row in a file. -/
def toRecord (c : Chunk) (fileId : String) (vector : List Float) (tags : Tags)
    (style : Json.Style) : Record :=
  Record.addTag ⟨c.recordId fileId, vector, tags, c.payload style⟩ Record.fileIdTag fileId

/-- The items of a tag that is given in any form. -/
def givenTag (tag : String × Value) : Except Fault (String × Value) := do
  return (tag.1, .list (← tag.2.items))

/-- The tags that are given in any form. -/
def givenTags : Value → Except Fault Fields
  | .map tags => tags.mapM givenTag
  | v => if v.isVoid then .ok [] else .error .noPart

/-- The record of the row in a file, vector and tags given in any form. -/
def toRecordGiven (c : Chunk) (fileId : String) (vector tags : Value) (style : Json.Style) :
    Except Fault Record := do
  let vector ← if vector.isVoid then .ok [] else vector.items
  let tags ← givenTags tags
  (Value.map c.data).checkWritable Json.Manner.lenient.maxDepth
  let (vector, tags) ← (Schema.both
    (Schema.under (.field "vector") (Record.checkVector (.list vector)))
    (Schema.under (.field "tags") (Record.checkTags (.map tags)))).orFault
  return c.toRecord fileId vector tags style

end Chunk

end SheetRecall.Workbook
