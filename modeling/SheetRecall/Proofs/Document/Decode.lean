import SheetRecall.Document.Decode
import SheetRecall.Proofs.Entries
import SheetRecall.Proofs.Ident.Code

/-!
# Documents Are Read Back

The parts that every document has stand for the record that they were written from: the id is
decoded, every tag is a list of texts and nulls, the vector a list of doubles, the payload a map.

## Main statements
- `decodeCommon_commonParts`, whatever parts follow the common ones.  Each part is read by itself
  (`readVector_of_part`, `readId_of_part`, `readTags_of_part`), and what is read passes the checks
  of a record (`ofFields_eq_ok`).
- `decode_commonParts`: a codec for rows adds the row of the document.
-/

namespace SheetRecall

/-- Helper: steps that each give an answer give their answers in order. -/
private theorem mapM_eq_ok {ε α β γ : Type} {read : β → Except ε γ} {write : α → β} {shown : α → γ}
    (h : ∀ a, read (write a) = .ok (shown a)) (items : List α) :
    (items.map write).mapM read = .ok (items.map shown) := by
  induction items with
  | nil => rfl
  | cons a rest ih =>
    rw [List.map_cons, List.mapM_cons, h, ih]
    rfl

/-! ## Checks that pass -/

namespace Schema

theorem under_ok {α : Type} (step : Step) (a : α) : under step (.ok a) = .ok a := rfl

theorem checkItems_eq_ok {α : Type} {check : Value → Checked α} {write : α → Value}
    (h : ∀ a, check (write a) = .ok a) (i : Nat) (items : List α) :
    checkItems check i (items.map write) = .ok items := by
  induction items generalizing i with
  | nil => rfl
  | cons a rest ih =>
    rw [List.map_cons, checkItems, h, ih]
    rfl

/-- A list of items that pass one by one passes. -/
theorem checkList_eq_ok {α : Type} {check : Value → Checked α} {write : α → Value}
    (h : ∀ a, check (write a) = .ok a) (items : List α) :
    checkList check (.list (items.map write)) = .ok items :=
  checkItems_eq_ok h 0 items

/-- A map whose values pass one by one passes. -/
theorem checkMap_eq_ok {α : Type} {check : Value → Checked α} {write : α → Value}
    (h : ∀ a, check (write a) = .ok a) (entries : Entries α) :
    checkMap check (.map (entries.map fun (key, a) => (key, write a))) = .ok entries := by
  rw [checkMap]
  induction entries with
  | nil => rfl
  | cons entry rest ih =>
    rw [List.map_cons, checkFields, h, ih]
    rfl

end Schema

namespace Record

theorem checkList_tagValue (values : List (Option String)) :
    Schema.checkList (Schema.checkOptional Schema.checkText) (tagValue values) = .ok values := by
  refine Schema.checkList_eq_ok (fun value => ?_) values
  cases value with
  | none => rfl
  | some s => rfl

theorem checkTags_tagsValue (tags : Tags) : checkTags (tagsValue tags) = .ok tags :=
  Schema.checkMap_eq_ok checkList_tagValue tags

theorem checkVector_floats (vector : List Float) :
    checkVector (.list (vector.map .float)) = .ok vector := by
  have hfloat : ∀ x, Schema.checkFloat (.float x) = .ok x := fun _ => rfl
  exact Schema.checkList_eq_ok hfloat vector

/-- The fields of a record without its payload make that record. -/
theorem ofFields_eq_ok (id : String) (vector : List Float) (tags : Tags) :
    ofFields [("id", .text id), ("vector", .list (vector.map .float)), ("tags", tagsValue tags)]
      = .ok ⟨id, vector, tags, []⟩ := by
  have hid : Schema.required [("id", .text id), ("vector", .list (vector.map .float)),
      ("tags", tagsValue tags)] "id" Schema.checkText = .ok id := rfl
  have hvector : Schema.orDefault [("id", .text id), ("vector", .list (vector.map .float)),
      ("tags", tagsValue tags)] "vector" checkVector [] = .ok vector := by
    change Schema.under _ (checkVector (.list (vector.map .float))) = _
    rw [checkVector_floats, Schema.under_ok]
  have htags : Schema.orDefault [("id", .text id), ("vector", .list (vector.map .float)),
      ("tags", tagsValue tags)] "tags" checkTags [] = .ok tags := by
    change Schema.under _ (checkTags (tagsValue tags)) = _
    rw [checkTags_tagsValue, Schema.under_ok]
  rw [ofFields, hid, hvector, htags]
  rfl

end Record

namespace Value

theorem toVector_floats (vector : List Float) :
    (list (vector.map .float)).toVector = .ok vector := by
  have hfloat : ∀ x, toFloat (.float x) = .ok (id x) := fun _ => rfl
  have hread := mapM_eq_ok hfloat vector
  rw [List.map_id] at hread
  exact hread

/-- The fields of a map that repeats no name are read as they are. -/
theorem fieldsOf_map {fields : Fields} (hkeys : fields.names.Nodup) :
    fieldsOf (fields.map fun (key, value) => (text key, value)) = .ok fields := by
  have hissues : (fields.map fun (key, value) => (text key, value)).filterMap
      (fun pair => keyIssue? pair.1) = [] := by
    rw [List.filterMap_map, List.filterMap_eq_nil_iff]
    exact fun field _ => rfl
  have hfields : (fields.map fun (key, value) => (text key, value)).filterMap textField?
      = fields := by
    rw [List.filterMap_map]
    exact List.filterMap_some
  rw [fieldsOf, hissues, hfields]
  exact congrArg Except.ok (Entries.ofPairs_eq_self hkeys)

end Value

/-! ## Parts -/

namespace Codec

theorem readVector_of_part {document : Fields} {vector : List Float}
    (h : document.get? Part.embedding = some (.list (vector.map .float))) :
    readVector document = .ok vector := by
  rw [readVector, part, h, Option.getD_some]
  split
  case isTrue hvoid =>
    rw [Value.isVoid, List.isEmpty_map, List.isEmpty_iff] at hvoid
    rw [hvoid]
  case isFalse => exact Value.toVector_floats vector

theorem readId_of_part {document : Fields} {id : String}
    (h : document.get? Part.id = some (.text (Ident.encode id))) : readId document = .ok id := by
  simp only [readId, h, Ident.decode_encode]
  rfl

theorem readTag_tagValue (key : String) (values : List (Option String)) :
    readTag (key, Record.tagValue values) = .ok (key, Record.tagValue values) := by
  cases values with
  | nil => rfl
  | cons value rest => rfl

theorem readTags_of_part {document : Fields} {tags : Tags}
    (h : document.get? Part.tags = some (Record.tagsValue tags)) :
    readTags document = .ok (tags.map fun (key, values) => (key, Record.tagValue values)) := by
  rw [readTags, part, h, Option.getD_some]
  exact mapM_eq_ok (fun tag => readTag_tagValue tag.1 tag.2) tags

/-! ## Main statements -/

/-- **The common parts of a document stand for the record that they were written from**, without
the vector if it is not asked for. -/
theorem decodeCommon_commonParts (codec : Codec) (record : Record) (others : Fields)
    (hkeys : record.payload.names.Nodup) (withVector : Bool) :
    decodeCommon withVector (.map (codec.commonParts record ++ others))
      = .ok { record with vector := if withVector then record.vector else [] } := by
  -- each part that is read is the one that was put there
  have hid : readId (codec.commonParts record ++ others) = .ok record.id := readId_of_part rfl
  have hvector : readVector (codec.commonParts record ++ others) = .ok record.vector :=
    readVector_of_part rfl
  have htags : readTags (codec.commonParts record ++ others)
      = .ok (record.tags.map fun (key, values) => (key, Record.tagValue values)) :=
    readTags_of_part rfl
  have hpayload : (part (codec.commonParts record ++ others) Part.payload).toPairs
      = .ok (record.payload.map fun (key, value) => (.text key, value)) := rfl
  have hfields : Schema.under (.field "payload") (Value.fieldsOf
      (record.payload.map fun (key, value) => (.text key, value))) = .ok record.payload := by
    rw [Value.fieldsOf_map hkeys, Schema.under_ok]
  -- the vector is read or left out, everything else is the same
  cases withVector with
  | true =>
    have hrecord := Record.ofFields_eq_ok record.id record.vector record.tags
    rw [Record.tagsValue] at hrecord
    simp only [decodeCommon, partsOf, hid, hvector, htags, hpayload, bind, Except.bind, if_true]
    rw [hrecord, hfields]
    rfl
  | false =>
    have hrecord := Record.ofFields_eq_ok record.id [] record.tags
    rw [Record.tagsValue] at hrecord
    simp only [decodeCommon, partsOf, hid, htags, hpayload, bind, Except.bind, Bool.false_eq_true,
      if_false]
    rw [hrecord, hfields]
    rfl

/-- A codec for rows reads the common parts as their record and puts the row of the document into
its payload, if there is JSON for the row. -/
theorem decode_commonParts {codec : Codec} {rows : RowLayout} (hrows : codec.rows = some rows)
    {record : Record} (others : Fields) (hkeys : record.payload.names.Nodup) (withVector : Bool) :
    codec.decode withVector (.map (codec.commonParts record ++ others))
      = (codec.putRow record.payload
          (documentRow rows (codec.commonParts record ++ others) record.payload)).map fun payload =>
        { record with vector := if withVector then record.vector else [], payload } := by
  simp only [decode, decodeCommon_commonParts codec record others hkeys, hrows, partsOf, bind,
    Except.bind]
  cases codec.putRow record.payload
    (documentRow rows (codec.commonParts record ++ others) record.payload) <;> rfl

end Codec

end SheetRecall
