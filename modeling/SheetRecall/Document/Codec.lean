import SheetRecall.Json.Reader
import SheetRecall.Json.Writer
import SheetRecall.Query.Path
import SheetRecall.Record.Basic

/-!
# Codecs

How records are kept as documents.  Every document has an id, a partition key, tags, a vector and
a payload.  A codec for rows adds two parts of its own: the row's values and its provenance, which
callers see as JSON inside the payload.
-/

namespace SheetRecall

/-- How rows are kept in documents. -/
structure RowLayout where
  /-- A row may be read from the text of the payload if it is not given otherwise. -/
  readText : Bool := true
  /-- Columns go under their stored names. -/
  normalize : Bool := true
  deriving Repr, DecidableEq

/-- How records are kept as documents. -/
structure Codec where
  /-- The style of the JSON in the payload. -/
  style : Json.Style := {}
  /-- How rows are kept, if they have parts of their own. -/
  rows : Option RowLayout := none
  /-- How the JSON in a payload is read; it is written no deeper than it is read. -/
  manner : Json.Manner := .lenient
  deriving Repr, DecidableEq

namespace Codec

/-- The codec that knows no rows. -/
def plain : Codec := {}

/-- The codec for rows. -/
def tabular (rows : RowLayout) : Codec := { rows }

/-- The parts of a document, in the order in which queries ask for them. -/
def parts (codec : Codec) : List String :=
  match codec.rows with
  | none => [Part.id, Part.file, Part.tags, Part.embedding, Part.payload]
  | some _ => [Part.id, Part.file, Part.tags, Part.data, Part.source, Part.embedding, Part.payload]

/-- The parts that a query asks for. -/
def selected (codec : Codec) (withVectors : Bool) : List String :=
  codec.parts.filter fun part => withVectors || part ≠ Part.embedding

/-- The path of a part; without a name for the documents, the part alone. -/
def partPath (item part : String) : String :=
  if item.isEmpty then part else item ++ "." ++ part

/-- The parts in a query. -/
def columns (codec : Codec) (item : String) (withVectors : Bool) : String :=
  ",".intercalate ((codec.selected withVectors).map (partPath item))

/-- The partition of a record: rows of one import share a partition. -/
def partition (codec : Codec) (record : Record) : String :=
  match codec.rows with
  | none => record.id
  | some _ => record.fileId

end Codec

namespace Payload

/-- The payload's entry with the values of the row. -/
def rowData : String := "tabular_data"

/-- The payload's entry with the provenance of the row. -/
def rowSource : String := "source_info"

/-- The payload's entry with the text of the row. -/
def rowText : String := "text"

end Payload

end SheetRecall
