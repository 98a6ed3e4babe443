import SheetRecall.Document.Encode
import SheetRecall.Value.Same

/-!
# Documents as records

The record that a document stands for.  A document comes from a store and may be of any shape, so
reading it can fail.  The row's values and provenance go back into the payload as JSON; a document
that was written here fails only where there is no JSON for the row.
-/

namespace SheetRecall

namespace Codec

/-! ## Reading parts -/

/-- The parts of a document; asking a value that has none is a fault of its own kind. -/
def partsOf (otherwise : Fault) : Value → Except Fault Fields
  | .map fields => .ok fields
  | _ => .error otherwise

/-- The part with a name; null when it is absent. -/
def part (document : Fields) (name : String) : Value := (document.get? name).getD .null

/-- The vector of a document. -/
def readVector (document : Fields) : Except Fault (List Float) :=
  let v := part document Part.embedding
  if v.isVoid then .ok [] else v.toVector

/-- The record id of a document. -/
def readId (document : Fields) : Except Fault String :=
  match document.get? Part.id with
  | none => .error .noEntry
  | some (.text code) => (Ident.decode code).mapError .badCode
  | some _ => .error .noPart

/-- The items of a tag of a document. -/
def readTag (tag : String × Value) : Except Fault (String × Value) := do
  if tag.2.isVoid then .ok (tag.1, .list []) else .ok (tag.1, .list (← tag.2.items))

/-- The tags of a document. -/
def readTags (document : Fields) : Except Fault Fields :=
  match part document Part.tags with
  | .map tags => tags.mapM readTag
  | v => if v.isVoid then .ok [] else .error .noPart

/-- The record in the parts that every document has. -/
def decodeCommon (withVector : Bool) (document : Value) : Except Fault Record := do
  let fields ← partsOf (if withVector then .noPart else .wrongKind) document
  let vector ← if withVector then readVector fields else .ok []
  let id ← readId fields
  let tags ← readTags fields
  let payload ← (part fields Part.payload).toPairs
  let (record, payload) ← (Schema.both
    (Record.ofFields
      [("id", .text id), ("vector", .list (vector.map .float)), ("tags", .map tags)])
    (Schema.under (.field "payload") (Value.fieldsOf payload))).orFault
  .ok { record with payload }

/-! ## Rows -/

/-- The row of a document: its values and provenance, each void when there are none. -/
def documentRow (rows : RowLayout) (document payload : Fields) : Value × Value :=
  let data := part document Part.data
  let source := part document Part.source
  if !data.isVoid then (data, source)
  else
    match textRow? rows payload with
    | none => (data, source)
    | some row =>
      (.map (storedColumns rows row.data), if source.isVoid then .map row.source else source)

/-- Puts a value into the payload as JSON, unless it is void. -/
def putJson (codec : Codec) (payload : Fields) (key : String) (value : Value) :
    Except Fault Fields := do
  if value.isVoid then return payload
  (Json.styled codec.style value).checkWritable codec.manner.maxDepth
  return payload.put key (.text (Json.write codec.style value))

/-- Puts a row into the payload. -/
def putRow (codec : Codec) (payload : Fields) (row : Value × Value) : Except Fault Fields := do
  codec.putJson (← codec.putJson payload Payload.rowData row.1) Payload.rowSource row.2

/-! ## Decoding -/

/-- The record of a document. -/
def decode (codec : Codec) (withVector : Bool) (document : Value) : Except Fault Record := do
  let record ← decodeCommon withVector document
  match codec.rows with
  | none => .ok record
  | some rows =>
    let fields ← partsOf .noPart document
    let payload ← codec.putRow record.payload (documentRow rows fields record.payload)
    .ok { record with payload }

end Codec

/-! ## Comparing -/

/-- The records have equal fields. -/
def Record.same (r s : Record) : Bool := Fields.alike r.toFields s.toFields

/-- The documents have equal parts. -/
def Codec.sameDocument (d e : Fields) : Bool := Fields.alike d e

end SheetRecall
