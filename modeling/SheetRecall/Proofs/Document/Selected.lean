import SheetRecall.Proofs.Document.Reload
import SheetRecall.Proofs.Json.Reordered

/-!
# Queries Ask for What Is Read

A query names the parts of documents that it wants.  Those parts are the ones that reading a
document looks at, so a document that is cut down to them is read as the same record.  That record
is the one that was written, but for the vector, which may be left out, and for the two entries of
the payload that hold the row.

## Layers
- `decode_congr`: documents that agree in the selected parts are read alike.
- `columnPaths_columns`: the columns of a query name the selected parts and no others.
- `decode_of_documentRow`, `decode_rowParts`, `decode_cases`: which documents are read.
- `sameRecord_of_decode`: what is read is what was written, but for the row.
- `selected_parts_suffice`: all of it for a record that is written and read back.
-/

namespace SheetRecall

namespace Codec

open SheetRecall.Value

/-! ## Selected parts -/

theorem mem_selected {codec : Codec} {withVectors : Bool} {name : String} :
    name ∈ codec.selected withVectors
      ↔ name ∈ codec.parts ∧ (withVectors = true ∨ name ≠ Part.embedding) := by
  simp [selected]

theorem mem_selected_common {codec : Codec} {withVectors : Bool} {name : String}
    (h : name ∈ [Part.id, Part.tags, Part.payload]) : name ∈ codec.selected withVectors := by
  simp only [List.mem_cons, List.not_mem_nil, or_false] at h
  refine mem_selected.mpr ⟨?_, Or.inr ?_⟩
  · unfold parts
    split <;> rcases h with rfl | rfl | rfl <;> simp
  · rcases h with rfl | rfl | rfl <;> decide

theorem mem_selected_embedding {codec : Codec} : Part.embedding ∈ codec.selected true := by
  refine mem_selected.mpr ⟨?_, Or.inl rfl⟩
  unfold parts
  split <;> simp

/-- A codec for rows asks for their values and their provenance as well. -/
theorem mem_selected_row {codec : Codec} {rows : RowLayout} (hrows : codec.rows = some rows)
    {withVectors : Bool} {name : String} (h : name ∈ [Part.data, Part.source]) :
    name ∈ codec.selected withVectors := by
  simp only [List.mem_cons, List.not_mem_nil, or_false] at h
  refine mem_selected.mpr ⟨?_, Or.inr ?_⟩
  · rw [parts, hrows]
    rcases h with rfl | rfl <;> simp
  · rcases h with rfl | rfl <;> decide

/-! ## Parts that are read -/

section Congruence

variable {document other : Fields}

theorem readVector_congr (h : document.get? Part.embedding = other.get? Part.embedding) :
    readVector document = readVector other := by
  rw [readVector, readVector, part, part, h]

theorem readId_congr (h : document.get? Part.id = other.get? Part.id) :
    readId document = readId other := by
  rw [readId, readId, h]

theorem readTags_congr (h : document.get? Part.tags = other.get? Part.tags) :
    readTags document = readTags other := by
  rw [readTags, readTags, part, part, h]

/-- The vector is the only common part that need not agree, and only if it is not asked for. -/
theorem decodeCommon_congr {codec : Codec} {withVectors : Bool}
    (h : ∀ name ∈ codec.selected withVectors, document.get? name = other.get? name) :
    decodeCommon withVectors (.map document) = decodeCommon withVectors (.map other) := by
  have hid := readId_congr (h Part.id (mem_selected_common (by simp)))
  have htags := readTags_congr (h Part.tags (mem_selected_common (by simp)))
  have hpayload := h Part.payload (mem_selected_common (by simp))
  simp only [decodeCommon, partsOf, bind, Except.bind, hid, htags, part, hpayload]
  cases withVectors with
  | false => rfl
  | true => rw [readVector_congr (h Part.embedding mem_selected_embedding)]

theorem documentRow_congr (rows : RowLayout) (payload : Fields)
    (hdata : document.get? Part.data = other.get? Part.data)
    (hsource : document.get? Part.source = other.get? Part.source) :
    documentRow rows document payload = documentRow rows other payload := by
  have hcolumns : part document Part.data = part other Part.data := by rw [part, part, hdata]
  have htexts : part document Part.source = part other Part.source := by rw [part, part, hsource]
  rw [documentRow, documentRow, hcolumns, htexts]

/-- **Documents that agree in the selected parts are read alike.** -/
theorem decode_congr {codec : Codec} {withVectors : Bool}
    (h : ∀ name ∈ codec.selected withVectors, document.get? name = other.get? name) :
    codec.decode withVectors (.map document) = codec.decode withVectors (.map other) := by
  have hcommon := decodeCommon_congr h
  -- the common parts are the same for every codec, the row is read by one for rows only
  cases hrows : codec.rows with
  | none => simp only [decode, hrows, hcommon]
  | some rows =>
    have hdata := h Part.data (mem_selected_row hrows (by simp))
    have hsource := h Part.source (mem_selected_row hrows (by simp))
    simp only [decode, hrows, partsOf, bind, Except.bind, hcommon,
      documentRow_congr rows _ hdata hsource]

end Congruence

theorem decode_restrict (codec : Codec) (withVectors : Bool) (document : Fields) :
    codec.decode withVectors (.map (document.restrict (codec.selected withVectors)))
      = codec.decode withVectors (.map document) := by
  apply decode_congr
  intro name hname
  rw [Entries.get?_restrict, if_pos hname]

/-! ## Columns of queries -/

/-- The paths in the columns of a query. -/
def columnPaths (columns : String) : List String :=
  (columns.toList.splitOn ',').map String.ofList

/-- The fields of a document that the columns of a query list. -/
def listed (item columns : String) (document : Fields) : Fields :=
  document.filter fun field => (columnPaths columns).contains (partPath item field.1)

theorem partPath_injective (item : String) : Function.Injective (partPath item) := by
  intro part other h
  unfold partPath at h
  split at h
  case isTrue => exact h
  case isFalse => exact (String.append_right_inj _).mp h

theorem comma_notMem_partPath {item part : String} (hitem : ',' ∉ item.toList)
    (hpart : ',' ∉ part.toList) : ',' ∉ (partPath item part).toList := by
  unfold partPath
  split
  case isTrue => exact hpart
  case isFalse => simp [hitem, hpart]

theorem comma_notMem_of_mem_parts {codec : Codec} {part : String} (h : part ∈ codec.parts) :
    ',' ∉ part.toList := by
  unfold parts at h
  split at h
  all_goals
    simp only [List.mem_cons, List.not_mem_nil, or_false] at h
    rcases h with rfl | rfl | rfl | rfl | rfl | rfl | rfl <;> decide

/-- **The columns of a query are the paths of the selected parts**, one by one. -/
theorem columnPaths_columns (codec : Codec) {item : String} (hitem : ',' ∉ item.toList)
    (withVectors : Bool) :
    columnPaths (codec.columns item withVectors)
      = (codec.selected withVectors).map (partPath item) := by
  have hnone : ∀ path ∈ ((codec.selected withVectors).map (partPath item)).map String.toList,
      ',' ∉ path := by
    simp only [List.map_map, List.mem_map, Function.comp_apply]
    rintro _ ⟨part, hpart, rfl⟩
    exact comma_notMem_partPath hitem (comma_notMem_of_mem_parts (mem_selected.mp hpart).1)
  -- there is always an id to ask for
  have hsome : ((codec.selected withVectors).map (partPath item)).map String.toList ≠ [] := by
    have hid : Part.id ∈ codec.selected withVectors := mem_selected_common (by simp)
    simpa using List.ne_nil_of_mem hid
  have hsplit := List.splitOn_intercalate ',' hnone hsome
  rw [columnPaths, columns, String.toList_intercalate]
  change ((List.splitOn ',' ([','].intercalate _)).map String.ofList) = _
  rw [hsplit, List.map_map]
  exact (List.map_congr_left fun path _ => String.ofList_toList).trans (List.map_id _)

theorem listed_columns (codec : Codec) {item : String} (hitem : ',' ∉ item.toList)
    (withVectors : Bool) (document : Fields) :
    listed item (codec.columns item withVectors) document
      = document.restrict (codec.selected withVectors) := by
  rw [listed, columnPaths_columns codec hitem, Entries.restrict]
  apply List.filter_congr
  intro field _
  rw [Bool.eq_iff_iff, List.contains_iff_mem, List.contains_iff_mem,
    List.mem_map_of_injective (partPath_injective item)]

/-! ## What is written and what is read -/

theorem partition_congr (codec : Codec) {record other : Record} (hid : record.id = other.id)
    (htags : record.tags = other.tags) : codec.partition record = codec.partition other := by
  simp only [partition, Record.fileId, Record.fileId.fromDocument, Record.tag?, hid, htags]

/-- The record that is read is the one that was written, but for what may change. -/
structure SameRecord (codec : Codec) (withVectors : Bool) (record again : Record) : Prop where
  id : again.id = record.id
  tags : again.tags = record.tags
  vector : again.vector = if withVectors then record.vector else []
  payload : codec.rows = none → again.payload = record.payload
  others : ∀ key, key ≠ Payload.rowData → key ≠ Payload.rowSource →
    again.payload.get? key = record.payload.get? key

theorem sameRecord_of_decode {codec : Codec} {record : Record} (hkeys : record.payload.names.Nodup)
    {others : Fields} {withVectors : Bool} {again : Record}
    (h : codec.decode withVectors (.map (codec.commonParts record ++ others)) = .ok again) :
    SameRecord codec withVectors record again := by
  cases hrows : codec.rows with
  | none =>
    have hcommon := decodeCommon_commonParts codec record others hkeys withVectors
    simp only [decode, hrows, hcommon, bind, Except.bind] at h
    cases h
    exact ⟨rfl, rfl, rfl, fun _ => rfl, fun _ _ _ => rfl⟩
  | some rows =>
    rw [decode_commonParts hrows others hkeys] at h
    obtain ⟨payload, hput, rfl⟩ := except_map_eq_ok_iff.mp h
    refine ⟨rfl, rfl, rfl, fun hnone => ?_, fun key hdata hsource => ?_⟩
    · exact absurd (hrows.symm.trans hnone) (by simp)
    · exact get?_putRow_of_ne hput hdata hsource

/-- Where the provenance can be put into the payload, a document is read exactly if the columns
can. -/
theorem decode_of_documentRow {codec : Codec} {rows : RowLayout} (hrows : codec.rows = some rows)
    {record : Record} (hkeys : record.payload.names.Nodup) {others columns : Fields}
    {source : Value}
    (hrow : documentRow rows (codec.commonParts record ++ others) record.payload
      = (.map columns, source))
    (hsource : Writable codec.manner.maxDepth source) (withVectors : Bool) :
    let document : Value := .map (codec.commonParts record ++ others)
    (Writable codec.manner.maxDepth (.map columns) → ∃ again,
        codec.decode withVectors document = .ok again)
      ∧ (¬Writable codec.manner.maxDepth (.map columns) → ∃ fault,
        codec.decode withVectors document = .error fault ∧ IsUnwritable fault) := by
  intro document
  have hdecode := decode_commonParts hrows others hkeys withVectors
  rw [hrow] at hdecode
  refine ⟨fun hwritable => ?_, fun hnot => ?_⟩
  · obtain ⟨payload, hput⟩ := exists_putRow record.payload hwritable hsource
    rw [hput] at hdecode
    exact ⟨_, hdecode⟩
  · obtain ⟨fault, hput, hfault⟩ := exists_putRow_error record.payload source hnot
    rw [hput] at hdecode
    exact ⟨fault, hdecode, hfault⟩

/-- **A document is read exactly if there is JSON for its columns**: there always is for the
provenance, which holds texts, and for a row of the text. -/
theorem decode_rowParts {codec : Codec} {rows : RowLayout} (hrows : codec.rows = some rows)
    (hroom : 0 < codec.manner.maxDepth) {record : Record} (hkeys : record.payload.names.Nodup)
    (row : GivenRow) (withVectors : Bool) :
    let columns : Value := .map (storedColumns rows (row.data.getD []))
    let document : Value := .map (codec.commonParts record ++ rowParts rows row)
    (Writable codec.manner.maxDepth columns → ∃ again,
        codec.decode withVectors document = .ok again)
      ∧ (¬Writable codec.manner.maxDepth columns → ∃ fault,
        codec.decode withVectors document = .error fault ∧ IsUnwritable fault) := by
  intro columns document
  have htexts := writable_sourceTexts hroom (row.source.getD [])
  by_cases hkept : row.data.getD [] ≠ [] ∨ textRow? rows record.payload = none
  · -- the columns of the document are put into the payload
    have hrow := documentRow_of_kept codec record row hkept
    exact decode_of_documentRow hrows hkeys hrow htexts withVectors
  · -- there are no columns, and the row of the text is put in their place
    obtain ⟨hempty, hholds⟩ := not_or.mp hkept
    have hempty := not_not.mp hempty
    obtain ⟨textRow, htext⟩ := Option.ne_none_iff_exists'.mp hholds
    have hrow := documentRow_of_textRow codec row hempty htext
    have hflat := flat_of_textRow htext
    -- the provenance is the one of the text, unless the document has one
    have hsource : Writable codec.manner.maxDepth (.map (if row.source.getD [] = []
        then textRow.source else sourceTexts (row.source.getD []))) := by
      split
      case isTrue => exact hflat.source.writable hroom
      case isFalse => exact htexts
    have hread := (decode_of_documentRow hrows hkeys hrow hsource withVectors).1
      (writable_storedColumns rows (hflat.data.writable hroom))
    have hnothing : storedColumns rows (row.data.getD []) = [] :=
      (storedColumns_eq_nil_iff rows _).mpr hempty
    refine ⟨fun _ => hread, fun hnot => ?_⟩
    -- no columns are always writable, so this case does not arise
    simp only [columns, hnothing] at hnot
    exact absurd ⟨Nat.zero_le _, trivial⟩ hnot

/-- The row of the record is a map of the payload, and there is no JSON for what is stored of it. -/
def Unread (codec : Codec) (record : Record) : Prop :=
  ∃ rows data, codec.rows = some rows
    ∧ record.payload.get? Payload.rowData = some (.map data)
    ∧ ¬Writable codec.manner.maxDepth (.map (storedColumns rows data))

/-- What is written for a record is read again, unless there is no JSON for its row. -/
theorem decode_cases {codec : Codec} (hroom : 0 < codec.manner.maxDepth) {record : Record}
    (hkeys : record.payload.names.Nodup) {encoded : Encoded}
    (h : codec.encode record = .ok encoded) (withVectors : Bool) :
    (codec.Unread record → ∃ fault, codec.decode withVectors (.map encoded.document) = .error fault
        ∧ IsUnwritable fault)
      ∧ (¬codec.Unread record → ∃ again,
        codec.decode withVectors (.map encoded.document) = .ok again) := by
  cases hrows : codec.rows with
  -- without a layout only the common parts are read, and they are the record's
  | none =>
    refine ⟨fun ⟨_, _, hsome, _⟩ => absurd (hrows.symm.trans hsome) (by simp), fun _ => ?_⟩
    simp only [encode, hrows] at h
    cases h
    have hcommon := decodeCommon_commonParts codec record [] hkeys withVectors
    rw [List.append_nil] at hcommon
    simp only [decode, hrows, hcommon, bind, Except.bind]
    exact ⟨_, rfl⟩
  | some rows =>
    -- the row of the document is the one that was taken when it was encoded
    obtain ⟨data, source, dataNotices, sourceNotices, hdata, hsource, hdocument⟩ :=
      exists_loaded_of_encode hrows h
    obtain ⟨hread, hrefused⟩ := decode_rowParts hrows hroom hkeys
      (takenRow (textRow? rows record.payload) data source) withVectors
    rw [hdocument]
    refine ⟨?unread, fun hnot => hread ?columns⟩
    case unread =>
      rintro ⟨_, fields, hrows', hget, hnot⟩
      obtain rfl := Option.some.inj (hrows.symm.trans hrows')
      -- the map is loaded as it is, so its columns are the ones that are taken
      have hload : codec.loadEntry record.payload Payload.rowData record.id
          = .ok (some fields, []) := by
        rw [loadEntry, hget]
      obtain ⟨rfl, rfl⟩ := Prod.mk.inj (Except.ok.inj (hload.symm.trans hdata))
      exact hrefused hnot
    case columns =>
      -- the columns come from nothing, from the text, or from the entry, which then holds no unread
      -- map
      refine data_takenRow (p := fun fields => Writable codec.manner.maxDepth
        (.map (storedColumns rows fields))) ?_ (fun textRow htext => ?_) ?_
      · exact writable_storedColumns rows (Legacy.flat_nil.writable hroom)
      · exact writable_storedColumns rows ((flat_of_textRow htext).data.writable hroom)
      · rintro fields rfl
        rcases writable_of_loadEntry hdata with hget | hwritable
        · by_contra hunwritable
          exact hnot ⟨rows, fields, hrows, hget, hunwritable⟩
        · exact writable_storedColumns rows hwritable

/-! ## Main statement -/

/-- What a query with the codec's columns, and one for whole documents, read of a record that was
written as the document. -/
structure ReadBack (codec : Codec) (withVectors : Bool) (record again : Record)
    (document : Fields) : Prop where
  whole : codec.decode withVectors (.map document) = .ok again
  listed : ∀ item : String, ',' ∉ item.toList →
    codec.decode withVectors (.map (listed item (codec.columns item withVectors) document))
      = .ok again
  same : SameRecord codec withVectors record again
  file : document.get? Part.file = some (.text (codec.partition again))

/-- A record with a list in 980 others for its row is refused, so there is nothing to read. -/
theorem deep_row_unwritten :
    let record : Record :=
      ⟨"a", [], [], [(Payload.rowData, .text (Json.write {} (Json.nested 981)))]⟩
    record.payload.names.Nodup ∧ (tabular {}).encode record = .error .tooDeep
      ∧ ¬∃ encoded again, (tabular {}).encode record = .ok encoded
        ∧ ReadBack (tabular {}) true record again encoded.document := by
  intro record
  have hload : (tabular {}).loadEntry record.payload Payload.rowData record.id
      = .error .tooDeep := by
    refine loadEntry_eq_tooDeep_iff.mpr ⟨_, rfl, ?_⟩
    exact Json.read_write_nested (by decide) {}
  have hencode : (tabular {}).encode record = .error .tooDeep :=
    encode_error_of_loadEntry rfl (Or.inl hload)
  refine ⟨by decide, hencode, ?_⟩
  rintro ⟨encoded, again, hok, -⟩
  exact absurd (hencode.symm.trans hok) (by simp)

/-- **A record is read back from the selected parts of its document**, the same as from all of
them, with its id, its tags, its vector if that is asked for, and all of the payload but the row.
It is addressed to the partition that it was written to.  Only what nests too deeply, or holds an
integer that is too long, stands in the way: such provenance, and such JSON of the row, when the
record is written, and a row that was given as a map when the document is read. -/
theorem selected_parts_suffice (codec : Codec) (hroom : 0 < codec.manner.maxDepth) (record : Record)
    (hkeys : record.payload.names.Nodup) (withVectors : Bool) :
    (codec.Unwritten record → ∃ fault, codec.encode record = .error fault ∧ IsUnwritable fault)
      ∧ (¬codec.Unwritten record → ∃ encoded, codec.encode record = .ok encoded
        ∧ (codec.Unread record → ∃ fault,
          codec.decode withVectors (.map encoded.document) = .error fault ∧ IsUnwritable fault)
        ∧ (¬codec.Unread record → ∃ again,
          ReadBack codec withVectors record again encoded.document)) := by
  -- apart from `Unwritten` there is a document, and apart from `Unread` it is read
  obtain ⟨hunwritten, hwritten⟩ := encode_cases codec record
  refine ⟨hunwritten, fun hnot => ?_⟩
  obtain ⟨others, notices, hencode⟩ := hwritten hnot
  obtain ⟨hunread, hread⟩ := decode_cases hroom hkeys hencode withVectors
  refine ⟨_, hencode, hunread, fun hnotUnread => ?_⟩
  obtain ⟨again, hagain⟩ := hread hnotUnread
  have hsame := sameRecord_of_decode hkeys hagain
  refine ⟨again, hagain, ?_, hsame, ?_⟩
  · -- the listed fields are those of the selected parts
    intro item hitem
    rw [listed_columns codec hitem, decode_restrict]
    exact hagain
  · -- the partition is made of the id and the tags, and both are kept
    rw [partition_congr codec hsame.id hsame.tags]
    rfl

/-- A row with a tag that has no value, beside another entry of the payload. -/
theorem tagged_row_read_back :
    let record : Record := ⟨"r/1", [0.5], [("kind", [some "x", none]), ("empty", [])],
      [("note", .list [.null]), (Payload.rowData, .map [("serverCores", .int 2)])]⟩
    record.payload.names.Nodup ∧ ¬(tabular {}).Unwritten record ∧ ¬(tabular {}).Unread record
      ∧ ∃ encoded again, (tabular {}).encode record = .ok encoded
        ∧ ReadBack (tabular {}) false record again encoded.document := by
  intro record
  have hkeys : record.payload.names.Nodup := by decide
  -- the row is a map in the payload, and there is no provenance
  have hdata : (tabular {}).loadEntry record.payload Payload.rowData record.id
      = .ok (some [("serverCores", .int 2)], []) := rfl
  have hwritten : ¬(tabular {}).Unwritten record := not_unwritten_of_loaded hdata rfl
  have hread : ¬(tabular {}).Unread record := by
    -- the columns hold a number of one digit
    rintro ⟨rows, data, hrows, hget, hnot⟩
    cases hrows
    cases hget
    have hshort : IsShort (.int 2) := by
      unfold IsShort
      decide
    exact hnot (writable_storedColumns _ ⟨by decide +kernel, hshort, trivial⟩)
  obtain ⟨encoded, hencode, -, hagain⟩ :=
    (selected_parts_suffice (tabular {}) (by decide) record hkeys false).2 hwritten
  obtain ⟨again, hback⟩ := hagain hread
  exact ⟨hkeys, hwritten, hread, encoded, again, hencode, hback⟩

end Codec

end SheetRecall
