import SheetRecall.Column.Name
import SheetRecall.Document.Codec
import SheetRecall.Legacy.Row
import SheetRecall.Notice
import SheetRecall.Value.Convert
import SheetRecall.Value.Display
import SheetRecall.Value.Limits

/-!
# Records as documents

The document that stands for a record in the store.  The row's values and its provenance are each
taken from the first place that has them: what the caller gives, the JSON in the payload, the text
of the payload.  An unreadable entry of the payload is reported and counts as absent.  The values of
the provenance become texts, so each of them has to be one that can be written.
-/

namespace SheetRecall

/-- A row's values and provenance, as far as the caller gives them. -/
structure GivenRow where
  data : Option Fields := none
  source : Option Fields := none

/-- A document, and what there was to report about it. -/
structure Encoded where
  document : Fields
  notices : List Notice := []
  /-- The values of a row that was given as pairs, if a key among them is no text: they do not fit
  into the map of the document, which is empty then. -/
  keyed : Option (List (Value × Value)) := none

namespace Codec

/-! ## Rows in payloads -/

/-- The map that an entry of the payload holds, as JSON or as a map.  JSON that is malformed is
reported; JSON that nests too deeply is a fault. -/
def loadEntry (codec : Codec) (payload : Fields) (key id : String) :
    Except Fault (Option Fields × List Notice) :=
  match payload.get? key with
  | none => .ok (none, [])
  | some .null => .ok (none, [])
  | some (.map fields) => .ok (some fields, [])
  | some (.text s) =>
    match Json.read codec.manner s with
    | .ok (.map fields) => .ok (some fields, [])
    | .ok _ =>
      .ok (none, [.error ("Payload key '" ++ key ++ "' of record " ++ id
        ++ " does not hold a JSON object")])
    | .error .tooDeep => .error .tooDeep
    | .error _ =>
      .ok (none, [.error ("Malformed JSON in payload key '" ++ key ++ "' of record " ++ id)])
  | some _ =>
    .ok (none, [.error ("Payload key '" ++ key ++ "' of record " ++ id
      ++ " is not a JSON string, ignoring it")])

/-- The row in the text of the payload. -/
def textRow? (rows : RowLayout) (payload : Fields) : Option Legacy.Row :=
  if rows.readText then Legacy.readRowValue? ((payload.get? Payload.rowText).getD .null) else none

/-- The part that is given, or else the one in the payload. -/
def givenOrLoaded (codec : Codec) (given : Option Fields) (payload : Fields) (key id : String) :
    Except Fault (Option Fields × List Notice) :=
  match given with
  | some fields => .ok (some fields, [])
  | none => codec.loadEntry payload key id

/-- The row of a record: given, in the JSON of the payload, or in its text. -/
def rowOf (codec : Codec) (rows : RowLayout) (record : Record) (given : GivenRow) :
    Except Fault (GivenRow × List Notice) := do
  let (data, dataNotices) ←
    codec.givenOrLoaded given.data record.payload Payload.rowData record.id
  let (source, sourceNotices) ←
    codec.givenOrLoaded given.source record.payload Payload.rowSource record.id
  let notices := dataNotices ++ sourceNotices
  match data with
  | some data => .ok (⟨some data, source⟩, notices)
  | none =>
    match textRow? rows record.payload with
    | some row => .ok (⟨some row.data, some (source.getD row.source)⟩, notices)
    | none => .ok (⟨none, source⟩, notices)

/-! ## Parts -/

/-- The columns under the names that they are stored under; of two with one name the later one
stands. -/
def storedColumns (rows : RowLayout) (data : Fields) : Fields :=
  if rows.normalize then Entries.ofPairs (data.map fun (key, value) => (Column.stored key, value))
  else data

/-- The provenance as texts. -/
def sourceTexts (source : Fields) : Fields :=
  source.map fun (key, value) => (key, .text value.display)

/-- The parts that every document has. -/
def commonParts (codec : Codec) (record : Record) : Fields :=
  [(Part.id, .text (Ident.encode record.id)), (Part.file, .text (codec.partition record)),
   (Part.tags, Record.tagsValue record.tags),
   (Part.embedding, .list (record.vector.map .float)), (Part.payload, .map record.payload)]

/-- The parts of a row. -/
def rowParts (rows : RowLayout) (row : GivenRow) : Fields :=
  [(Part.data, .map (storedColumns rows (row.data.getD []))),
   (Part.source, .map (sourceTexts (row.source.getD [])))]

/-! ## Encoding -/

/-- The document of a record whose row may be given beside it. -/
def encodeRow (codec : Codec) (rows : RowLayout) (record : Record) (given : GivenRow) :
    Except Fault Encoded := do
  let (row, notices) ← codec.rowOf rows record given
  Value.checkWritableFields (row.source.getD []) codec.manner.maxDepth
  return { document := codec.commonParts record ++ rowParts rows row, notices }

/-- The document of a record. -/
def encode (codec : Codec) (record : Record) : Except Fault Encoded :=
  match codec.rows with
  | none => .ok { document := codec.commonParts record }
  | some rows => codec.encodeRow rows record {}

/-- A given row's values: their map, and their pairs if a key is no text.  Nothing of any kind
stands for the empty map; only columns that keep their names may come as pairs. -/
def givenData (rows : RowLayout) :
    Value → Except Fault (Option Fields × Option (List (Value × Value)))
  | .null => .ok (none, none)
  | .map fields => .ok (some fields, none)
  | v =>
    if v.isVoid then .ok (some [], none)
    else if rows.normalize then .error .noPart
    else do
      let pairs ← v.toPairs
      match Value.fieldsOf pairs with
      | .ok fields => return (some fields, none)
      | .error _ => return (some [], some pairs)

/-- A given row's provenance. -/
def givenSource : Value → Except Fault (Option Fields)
  | .null => .ok none
  | .map fields => .ok (some fields)
  | v => if v.isVoid then .ok (some []) else .error .noPart

/-- The document of a record with a row of any kind beside it; only a codec for rows takes one. -/
def encodeGiven (codec : Codec) (record : Record) (data source : Value) :
    Except Fault Encoded := do
  match codec.rows with
  | none => if data.isNull && source.isNull then codec.encode record else .error .wrongKind
  | some rows =>
    let (data, keyed) ← givenData rows data
    return { ← codec.encodeRow rows record ⟨data, ← givenSource source⟩ with keyed }

end Codec

end SheetRecall
