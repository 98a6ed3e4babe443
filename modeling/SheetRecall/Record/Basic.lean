import SheetRecall.Fault
import SheetRecall.Schema.Check

/-!
# Records

The unit of storage: an id that never changes, an embedding vector, tags with several values each,
and a payload of any shape.  A field is set only to a value that passes the field's check; tag
values behave as a set that keeps the order in which they came.
-/

namespace SheetRecall

/-- The values of each tag, in order. -/
abbrev Tags := Entries (List (Option String))

/-- A record as callers of the store see it. -/
structure Record where
  id : String
  vector : List Float := []
  tags : Tags := []
  payload : Fields := []

namespace Record

open Schema

/-! ## Making records -/

/-- The check of a vector. -/
def checkVector (v : Value) : Checked (List Float) := checkList checkFloat v

/-- The check of the tags. -/
def checkTags (v : Value) : Checked Tags := checkMap (checkList (checkOptional checkText)) v

/-- The check of a payload. -/
def checkPayload (v : Value) : Checked Fields := checkMap checkAny v

/-- The record with the given fields; all but the id may be left out. -/
def ofFields (fields : Fields) : Checked Record :=
  (both (required fields "id" checkText)
    (both (orDefault fields "vector" checkVector [])
      (both (orDefault fields "tags" checkTags [])
        (orDefault fields "payload" checkPayload [])))).map
    fun (id, vector, tags, payload) => ⟨id, vector, tags, payload⟩

/-- A tag's values as a value. -/
def tagValue (values : List (Option String)) : Value :=
  .list (values.map fun v => v.elim .null .text)

/-- The tags as a value. -/
def tagsValue (tags : Tags) : Value := .map (tags.map fun (key, values) => (key, tagValue values))

/-- The fields of a record. -/
def toFields (r : Record) : Fields :=
  [("id", .text r.id), ("vector", .list (r.vector.map .float)), ("tags", tagsValue r.tags),
   ("payload", .map r.payload)]

/-- A name that belongs to nobody: what is set under it is not kept. -/
def isPrivate (field : String) : Bool := field.startsWith "_"

/-- Names under which a record tells about itself; they can be read, not set. -/
def readOnlyNames : List String := ["model_extra", "model_fields_set"]

/-- Sets a field by name, if the value passes the field's check. -/
def set (r : Record) (field : String) (value : Value) : Except Fault Record :=
  if field = "id" then .error (.invalid [⟨.frozen, [.field "id"]⟩])
  else if field = "vector" then
    (under (.field field) (checkVector value)).orFault.map fun vector => { r with vector }
  else if field = "tags" then
    (under (.field field) (checkTags value)).orFault.map fun tags => { r with tags }
  else if field = "payload" then
    (under (.field field) (checkPayload value)).orFault.map fun payload => { r with payload }
  else if isPrivate field then .ok r
  else if readOnlyNames.contains field then .error .noPart
  else .error (.invalid [⟨.unknownField, [.field field]⟩])

/-! ## Tags -/

/-- Adds a value to those that a tag has, unless it is there. -/
def addValue (value : Option String) (values : Option (List (Option String))) :
    List (Option String) :=
  match values with
  | none => [value]
  | some values => if values.contains value then values else values ++ [value]

/-- Adds a value to a tag. -/
def addTag (r : Record) (key : String) (value : Option String) : Record :=
  { r with tags := r.tags.alter key (addValue value) }

/-- The first value of a tag that is not null. -/
def tag? (r : Record) (key : String) : Option String :=
  ((r.tags.lookup key).getD []).findSome? fun value => value

/-- The tag of the imported file. -/
def fileIdTag : String := "__file_id"

/-- The tag of the document. -/
def documentIdTag : String := "__document_id"

/-- The id that the rows of one import share: the first of the file tag, the document tag and the
record's id that is there and not empty. -/
def fileId (r : Record) : String :=
  match r.tag? fileIdTag with
  | some id => if id.isEmpty then fromDocument else id
  | none => fromDocument
where
  /-- The document tag, or the record's own id. -/
  fromDocument : String :=
    match r.tag? documentIdTag with
    | some id => if id.isEmpty then r.id else id
    | none => r.id

end Record

end SheetRecall
