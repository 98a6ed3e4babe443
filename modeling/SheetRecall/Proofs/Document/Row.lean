import SheetRecall.Document.Encode
import SheetRecall.Proofs.Column.Stored
import SheetRecall.Proofs.Json.Read
import SheetRecall.Proofs.Legacy.Row

/-!
# Rows of Records

Where the row of a record comes from, which records have a document, and what the columns and the
provenance of the row look like once they are stored.

## Main statements
- `loadEntry_cases`: what an entry of the payload can be loaded as.
- `rowOf_of_loaded`: the row is taken from what is loaded, and from the text where nothing is.
- `encode_cases`: a record has a document unless JSON of its row cannot be read or its provenance
  cannot be written (`Unwritten`).
- `storedColumns_eq_self`, `sourceTexts_eq_self`: a row that is stored already is stored as it is.
-/

namespace SheetRecall.Codec

open SheetRecall.Value

/-! ## Entries of the payload -/

/-- An entry of the payload is too deep to load, or holds nothing, or holds a map as it is or as
JSON. -/
theorem loadEntry_cases (codec : Codec) (payload : Fields) (key id : String) :
    codec.loadEntry payload key id = .error .tooDeep
      ∨ (∃ notices, codec.loadEntry payload key id = .ok (none, notices))
      ∨ ∃ fields, codec.loadEntry payload key id = .ok (some fields, [])
        ∧ (payload.get? key = some (.map fields)
          ∨ ∃ s, payload.get? key = some (.text s)
            ∧ Json.read codec.manner s = .ok (.map fields)) := by
  unfold loadEntry
  split
  case h_3 fields hget => exact Or.inr (Or.inr ⟨fields, rfl, Or.inl hget⟩)
  case h_4 s hget =>
    split
    case h_1 fields hread => exact Or.inr (Or.inr ⟨fields, rfl, Or.inr ⟨s, hget, hread⟩⟩)
    case h_3 => exact Or.inl rfl
    all_goals exact Or.inr (Or.inl ⟨_, rfl⟩)
  all_goals exact Or.inr (Or.inl ⟨_, rfl⟩)

/-- An entry of the payload is loaded, unless its JSON nests too deeply. -/
theorem loadEntry_error {codec : Codec} {payload : Fields} {key id : String} {fault : Fault}
    (h : codec.loadEntry payload key id = .error fault) : fault = .tooDeep := by
  rcases loadEntry_cases codec payload key id with hdeep | ⟨notices, hload⟩ | ⟨fields, hload, -⟩
  · exact Except.error.inj (h.symm.trans hdeep)
  · exact absurd (h.symm.trans hload) (by simp)
  · exact absurd (h.symm.trans hload) (by simp)

/-- A map that is loaded is the entry as it is, or what its JSON is read as. -/
theorem exists_of_loadEntry {codec : Codec} {payload fields : Fields} {key id : String}
    {notices : List Notice} (h : codec.loadEntry payload key id = .ok (some fields, notices)) :
    payload.get? key = some (.map fields)
      ∨ ∃ s, payload.get? key = some (.text s) ∧ Json.read codec.manner s = .ok (.map fields) := by
  rcases loadEntry_cases codec payload key id with hdeep | ⟨_, hload⟩ | ⟨loaded, hload, hfrom⟩
  · exact absurd (h.symm.trans hdeep) (by simp)
  · exact absurd (h.symm.trans hload) (by simp)
  · obtain ⟨hfields, -⟩ := Prod.mk.inj (Except.ok.inj (h.symm.trans hload))
    rw [Option.some.inj hfields]
    exact hfrom

/-- A map that is loaded repeats no key if the payload does not. -/
theorem wellKeyed_of_loadEntry {codec : Codec} {payload fields : Fields} {key id : String}
    {notices : List Notice} (hkeyed : (Value.map payload).WellKeyed)
    (h : codec.loadEntry payload key id = .ok (some fields, notices)) :
    (Value.map fields).WellKeyed := by
  rcases exists_of_loadEntry h with hget | ⟨s, -, hread⟩
  · exact (wellKeyedFields_iff payload).mp hkeyed.2 _ (Entries.mem_of_get?_eq_some hget)
  · exact Json.wellKeyed_of_read hread

/-- A map that is loaded is the entry as it is, or one that can be written as it was read. -/
theorem writable_of_loadEntry {codec : Codec} {payload fields : Fields} {key id : String}
    {notices : List Notice} (h : codec.loadEntry payload key id = .ok (some fields, notices)) :
    payload.get? key = some (.map fields)
      ∨ (Value.map fields).Writable codec.manner.maxDepth := by
  rcases exists_of_loadEntry h with hget | ⟨s, -, hread⟩
  · exact Or.inl hget
  · exact Or.inr (Json.writable_of_read hread)

/-- An entry of the payload holds JSON that nests more deeply than it is read. -/
def DeepEntry (codec : Codec) (record : Record) (key : String) : Prop :=
  ∃ s, record.payload.get? key = some (.text s) ∧ Json.read codec.manner s = .error .tooDeep

theorem loadEntry_eq_tooDeep_iff {codec : Codec} {record : Record} {key : String} :
    codec.loadEntry record.payload key record.id = .error .tooDeep
      ↔ codec.DeepEntry record key := by
  unfold loadEntry DeepEntry
  constructor
  · intro h
    split at h
    case h_4 s hget =>
      refine ⟨s, hget, ?_⟩
      split at h
      case h_3 hread => exact hread
      all_goals cases h
    all_goals cases h
  · rintro ⟨s, hget, hread⟩
    simp only [hget, hread]

/-- An entry that is not too deep is loaded, whatever it holds. -/
theorem exists_loadEntry {codec : Codec} {record : Record} {key : String}
    (h : ¬codec.DeepEntry record key) :
    ∃ loaded notices, codec.loadEntry record.payload key record.id = .ok (loaded, notices) := by
  cases hload : codec.loadEntry record.payload key record.id with
  | error fault =>
    obtain rfl := loadEntry_error hload
    exact absurd (loadEntry_eq_tooDeep_iff.mp hload) h
  | ok loaded => exact ⟨loaded.1, loaded.2, rfl⟩

theorem loadEntry_congr (codec : Codec) {payload other : Fields} {key : String}
    (h : payload.get? key = other.get? key) (id : String) :
    codec.loadEntry payload key id = codec.loadEntry other key id := by
  rw [loadEntry, loadEntry, h]

/-- In a row of the text of the payload the values stand side by side. -/
theorem flat_of_textRow {rows : RowLayout} {payload : Fields} {row : Legacy.Row}
    (h : textRow? rows payload = some row) : row.Flat := by
  unfold textRow? Legacy.readRowValue? at h
  split at h
  case isTrue =>
    split at h
    case h_1 => exact Legacy.flat_of_readRow h
    case h_2 => cases h
  case isFalse => cases h

/-! ## The row that is taken -/

/-- The row that is taken where the text of the payload and its entries hold what they hold: the
text counts only if no values are loaded, and then for the provenance only if none is loaded. -/
def takenRow (text : Option Legacy.Row) (data source : Option Fields) : GivenRow :=
  match data, text with
  | some data, _ => ⟨some data, source⟩
  | none, some row => ⟨some row.data, some (source.getD row.source)⟩
  | none, none => ⟨none, source⟩

/-- The row of a record whose entries are loaded is the one that is taken from them. -/
theorem rowOf_of_loaded {codec : Codec} {rows : RowLayout} {record : Record}
    {data source : Option Fields} {dataNotices sourceNotices : List Notice}
    (hdata : codec.loadEntry record.payload Payload.rowData record.id = .ok (data, dataNotices))
    (hsource : codec.loadEntry record.payload Payload.rowSource record.id
      = .ok (source, sourceNotices)) :
    codec.rowOf rows record {}
      = .ok (takenRow (textRow? rows record.payload) data source,
        dataNotices ++ sourceNotices) := by
  simp only [rowOf, givenOrLoaded, hdata, hsource, bind, Except.bind]
  cases data with
  | some data => rfl
  | none =>
    cases textRow? rows record.payload with
    | some row => rfl
    | none => rfl

/-- A record with an entry that nests too deeply has no row. -/
theorem rowOf_error_of_loadEntry {codec : Codec} {rows : RowLayout} {record : Record}
    (h : codec.loadEntry record.payload Payload.rowData record.id = .error .tooDeep
      ∨ codec.loadEntry record.payload Payload.rowSource record.id = .error .tooDeep) :
    codec.rowOf rows record {} = .error .tooDeep := by
  simp only [rowOf, givenOrLoaded, bind, Except.bind]
  cases hdata : codec.loadEntry record.payload Payload.rowData record.id with
  | error fault => rw [loadEntry_error hdata]
  | ok loaded =>
    have hsource := h.resolve_left (by simp [hdata])
    simp only [hsource]

section Taken

variable {text : Option Legacy.Row} {data source : Option Fields} {p : Fields → Prop}

/-- The values of the row that is taken are those of the text, or those that are loaded. -/
theorem data_takenRow (hnone : p []) (htext : ∀ row, text = some row → p row.data)
    (hdata : ∀ fields, data = some fields → p fields) :
    p ((takenRow text data source).data.getD []) := by
  cases data with
  | some data => exact hdata data rfl
  | none =>
    cases text with
    | none => exact hnone
    | some row => exact htext row rfl

/-- So is its provenance. -/
theorem source_takenRow (hnone : p []) (htext : ∀ row, text = some row → p row.source)
    (hsource : ∀ fields, source = some fields → p fields) :
    p ((takenRow text data source).source.getD []) := by
  -- provenance that is not loaded is empty
  have hloaded : p (source.getD []) := by
    cases source with
    | some fields => exact hsource fields rfl
    | none => exact hnone
  cases data with
  | some data => exact hloaded
  | none =>
    cases text with
    | none => exact hloaded
    | some row =>
      cases source with
      | some fields => exact hsource fields rfl
      | none => exact htext row rfl

variable (hflat : ∀ row, text = some row → row.Flat)

include hflat

/-- The row that is taken repeats no name if the loaded maps do not. -/
theorem wellKeyed_takenRow (hdata : ∀ fields, data = some fields → (Value.map fields).WellKeyed)
    (hsource : ∀ fields, source = some fields → (Value.map fields).WellKeyed) :
    (Value.map ((takenRow text data source).data.getD [])).WellKeyed
      ∧ (Value.map ((takenRow text data source).source.getD [])).WellKeyed :=
  ⟨data_takenRow (p := fun fields => (Value.map fields).WellKeyed) Legacy.flat_nil.wellKeyed
      (fun row hrow => (hflat row hrow).data.wellKeyed) hdata,
    source_takenRow (p := fun fields => (Value.map fields).WellKeyed) Legacy.flat_nil.wellKeyed
      (fun row hrow => (hflat row hrow).source.wellKeyed) hsource⟩

/-- It nests no more deeply than the loaded maps, where one map can be opened. -/
theorem depth_takenRow_le {room : Nat} (hroom : 0 < room)
    (hdata : ∀ fields, data = some fields → (Value.map fields).depth ≤ room)
    (hsource : ∀ fields, source = some fields → (Value.map fields).depth ≤ room) :
    (Value.map ((takenRow text data source).data.getD [])).depth ≤ room
      ∧ (Value.map ((takenRow text data source).source.getD [])).depth ≤ room :=
  ⟨data_takenRow (p := fun fields => (Value.map fields).depth ≤ room) (Nat.zero_le room)
      (fun row hrow => ((hflat row hrow).data.writable hroom).depth) hdata,
    source_takenRow (p := fun fields => (Value.map fields).depth ≤ room) (Nat.zero_le room)
      (fun row hrow => ((hflat row hrow).source.writable hroom).depth) hsource⟩

/-- The values of its provenance can be written if the loaded ones can. -/
theorem writable_takenRow_source {room : Nat}
    (hsource : ∀ fields, source = some fields → ∀ field ∈ fields, Writable room field.2) :
    ∀ field ∈ (takenRow text data source).source.getD [], Writable room field.2 := by
  refine source_takenRow (p := fun fields => ∀ field ∈ fields, Writable room field.2) (by simp)
    (fun row hrow field hfield => ?_) hsource
  exact ((hflat row hrow).source.values field hfield).mono (Nat.zero_le room)

end Taken

/-- Provenance that is loaded is taken, wherever the values come from. -/
theorem takenRow_some_source (text : Option Legacy.Row) (data : Option Fields) (source : Fields) :
    (takenRow text data (some source)).source = some source := by
  cases data with
  | some data => rfl
  | none => cases text <;> rfl

/-! ## Encoding -/

theorem encode_of_rows {codec : Codec} {rows : RowLayout} (hrows : codec.rows = some rows)
    (record : Record) : codec.encode record = codec.encodeRow rows record {} := by
  rw [encode, hrows]

/-- The document of a record holds its row, if the provenance of the row can be written. -/
theorem encodeRow_of_rowOf {codec : Codec} {rows : RowLayout} {record : Record} {given : GivenRow}
    {row : GivenRow} {notices : List Notice}
    (hrow : codec.rowOf rows record given = .ok (row, notices)) :
    codec.encodeRow rows record given
      = (Value.checkWritableFields (row.source.getD []) codec.manner.maxDepth).map fun _ =>
        ⟨codec.commonParts record ++ rowParts rows row, notices, none⟩ := by
  simp only [encodeRow, hrow, bind, Except.bind]
  cases Value.checkWritableFields (row.source.getD []) codec.manner.maxDepth <;> rfl

/-- The document of a record whose entries are loaded holds the row that is taken from them. -/
theorem encode_of_loaded {codec : Codec} {rows : RowLayout} (hrows : codec.rows = some rows)
    {record : Record} {data source : Option Fields} {dataNotices sourceNotices : List Notice}
    (hdata : codec.loadEntry record.payload Payload.rowData record.id = .ok (data, dataNotices))
    (hsource : codec.loadEntry record.payload Payload.rowSource record.id
      = .ok (source, sourceNotices))
    (hwritable : ∀ field ∈ (takenRow (textRow? rows record.payload) data source).source.getD [],
      Writable codec.manner.maxDepth field.2) :
    ∃ notices, codec.encode record = .ok ⟨codec.commonParts record
      ++ rowParts rows (takenRow (textRow? rows record.payload) data source), notices, none⟩ := by
  refine ⟨dataNotices ++ sourceNotices, ?_⟩
  have hcheck := (decides_checkWritableFields _ _).ok_iff.mpr hwritable
  rw [encode_of_rows hrows, encodeRow_of_rowOf (rowOf_of_loaded hdata hsource), hcheck]
  rfl

/-- Whatever is written for a record with a row is made of the entries that are loaded. -/
theorem exists_loaded_of_encode {codec : Codec} {rows : RowLayout} (hrows : codec.rows = some rows)
    {record : Record} {encoded : Encoded} (h : codec.encode record = .ok encoded) :
    ∃ data source dataNotices sourceNotices,
      codec.loadEntry record.payload Payload.rowData record.id = .ok (data, dataNotices)
      ∧ codec.loadEntry record.payload Payload.rowSource record.id = .ok (source, sourceNotices)
      ∧ encoded.document = codec.commonParts record
        ++ rowParts rows (takenRow (textRow? rows record.payload) data source) := by
  -- encoding fails where either entry is not loaded, so here both are
  rw [encode_of_rows hrows] at h
  cases hdata : codec.loadEntry record.payload Payload.rowData record.id with
  | error fault =>
    obtain rfl := loadEntry_error hdata
    simp only [encodeRow, rowOf_error_of_loadEntry (Or.inl hdata), bind, Except.bind] at h
    cases h
  | ok loadedData =>
  cases hsource : codec.loadEntry record.payload Payload.rowSource record.id with
  | error fault =>
    obtain rfl := loadEntry_error hsource
    simp only [encodeRow, rowOf_error_of_loadEntry (Or.inr hsource), bind, Except.bind] at h
    cases h
  | ok loadedSource =>
    rw [encodeRow_of_rowOf (rowOf_of_loaded hdata hsource)] at h
    obtain ⟨-, -, rfl⟩ := except_map_eq_ok_iff.mp h
    exact ⟨loadedData.1, loadedSource.1, loadedData.2, loadedSource.2, rfl, rfl, rfl⟩

theorem encode_error_of_loadEntry {codec : Codec} {rows : RowLayout}
    (hrows : codec.rows = some rows) {record : Record}
    (h : codec.loadEntry record.payload Payload.rowData record.id = .error .tooDeep
      ∨ codec.loadEntry record.payload Payload.rowSource record.id = .error .tooDeep) :
    codec.encode record = .error .tooDeep := by
  simp only [encode_of_rows hrows, encodeRow, rowOf_error_of_loadEntry h, bind, Except.bind]

/-! ## Records without a document -/

/-- The provenance that is given beside a record has a value that cannot be written; or if none is
given, the entry of the payload has one, or holds JSON that nests more deeply than it is read. -/
def UnwrittenSource (codec : Codec) (record : Record) : Option Fields → Prop
  | some source => ∃ field ∈ source, ¬Writable codec.manner.maxDepth field.2
  | none =>
    codec.DeepEntry record Payload.rowSource
      ∨ ∃ source, record.payload.get? Payload.rowSource = some (.map source)
        ∧ ∃ field ∈ source, ¬Writable codec.manner.maxDepth field.2

/-- The record has no document: JSON of its row nests more deeply than it is read, or its provenance
cannot be written. -/
def Unwritten (codec : Codec) (record : Record) : Prop :=
  codec.rows ≠ none
    ∧ (codec.DeepEntry record Payload.rowData ∨ codec.UnwrittenSource record none)

/-- Provenance that is not there does not stand in the way. -/
theorem not_unwrittenSource_of_absent {codec : Codec} {record : Record}
    (h : record.payload.get? Payload.rowSource = none) : ¬codec.UnwrittenSource record none := by
  rintro (⟨s, hget, -⟩ | ⟨source, hget, -⟩)
  · cases h.symm.trans hget
  · cases h.symm.trans hget

/-- Where the values are loaded and there is no provenance, nothing stands in the way. -/
theorem not_unwritten_of_loaded {codec : Codec} {record : Record} {data : Option Fields}
    {notices : List Notice}
    (hdata : codec.loadEntry record.payload Payload.rowData record.id = .ok (data, notices))
    (hsource : record.payload.get? Payload.rowSource = none) : ¬codec.Unwritten record := by
  rintro ⟨-, hdeep | hunwritten⟩
  · cases hdata.symm.trans (loadEntry_eq_tooDeep_iff.mpr hdeep)
  · exact not_unwrittenSource_of_absent hsource hunwritten

/-- Provenance that cannot be written is not loaded, or it is loaded with such a value. -/
theorem UnwrittenSource.loaded {codec : Codec} {record : Record} {given : Option Fields}
    (h : codec.UnwrittenSource record given) :
    codec.givenOrLoaded given record.payload Payload.rowSource record.id = .error .tooDeep
      ∨ ∃ source, codec.givenOrLoaded given record.payload Payload.rowSource record.id
          = .ok (some source, [])
        ∧ ¬∀ field ∈ source, Writable codec.manner.maxDepth field.2 := by
  cases given with
  | some source =>
    obtain ⟨field, hfield, hnot⟩ := h
    exact Or.inr ⟨source, rfl, fun hall => hnot (hall field hfield)⟩
  | none =>
    rcases h with hdeep | ⟨source, hget, field, hfield, hnot⟩
    · exact Or.inl (loadEntry_eq_tooDeep_iff.mpr hdeep)
    · refine Or.inr ⟨source, ?_, fun hall => hnot (hall field hfield)⟩
      rw [givenOrLoaded, loadEntry, hget]

/-- Any other provenance is loaded with values that can all be written: what comes from JSON was
read, and what is not given nor loaded is absent. -/
theorem exists_source_of_not_unwritten {codec : Codec} {record : Record} {given : Option Fields}
    (h : ¬codec.UnwrittenSource record given) :
    ∃ source notices, codec.givenOrLoaded given record.payload Payload.rowSource record.id
        = .ok (source, notices)
      ∧ ∀ fields, source = some fields →
        ∀ field ∈ fields, Writable codec.manner.maxDepth field.2 := by
  cases given with
  | some source =>
    -- a given source counts as it is; else it is what the payload has, and is loaded
    refine ⟨some source, [], rfl, ?_⟩
    rintro fields ⟨⟩ field hfield
    by_contra hnot
    exact h ⟨field, hfield, hnot⟩
  | none =>
    obtain ⟨source, notices, hload⟩ := exists_loadEntry fun hdeep => h (Or.inl hdeep)
    refine ⟨source, notices, hload, ?_⟩
    rintro fields rfl
    -- JSON that was loaded is shallow already, and only a map that was put in can nest too deeply
    rcases writable_of_loadEntry hload with hget | hwritable
    · by_contra hnot
      refine h (Or.inr ⟨fields, hget, ?_⟩)
      simpa only [not_forall, exists_prop] using hnot
    · exact hwritable.fields

/-- A row with such provenance is not written. -/
theorem encodeRow_error_of_rowOf {codec : Codec} {rows : RowLayout} {record : Record}
    {given row : GivenRow} {notices : List Notice}
    (hrow : codec.rowOf rows record given = .ok (row, notices))
    (h : ¬∀ field ∈ row.source.getD [], Writable codec.manner.maxDepth field.2) :
    ∃ fault, codec.encodeRow rows record given = .error fault ∧ IsUnwritable fault := by
  obtain ⟨fault, hcheck, hfault⟩ := (decides_checkWritableFields _ _).exists_error h
  refine ⟨fault, ?_, hfault⟩
  rw [encodeRow_of_rowOf hrow, hcheck]
  rfl

/-- **A record is written as its common parts and those of a row, or it has no document.** -/
theorem encode_cases (codec : Codec) (record : Record) :
    (codec.Unwritten record → ∃ fault, codec.encode record = .error fault ∧ IsUnwritable fault)
      ∧ (¬codec.Unwritten record → ∃ others notices,
        codec.encode record = .ok ⟨codec.commonParts record ++ others, notices, none⟩) := by
  -- without a layout there is no row, and nothing to fail
  cases hrows : codec.rows with
  | none =>
    refine ⟨fun h => absurd hrows h.1, fun _ => ⟨[], [], ?_⟩⟩
    simp only [encode, hrows, List.append_nil]
  | some rows =>
    -- the entries are loaded in this order, and the provenance is checked behind them
    have hsome : codec.rows ≠ none := by simp [hrows]
    by_cases hdeep : codec.DeepEntry record Payload.rowData
    · refine ⟨fun _ => ⟨.tooDeep, ?_, Or.inl rfl⟩, fun hnot => absurd ⟨hsome, Or.inl hdeep⟩ hnot⟩
      exact encode_error_of_loadEntry hrows (Or.inl (loadEntry_eq_tooDeep_iff.mpr hdeep))
    obtain ⟨data, dataNotices, hdata⟩ := exists_loadEntry hdeep
    have hrow : ∀ {source notices}, codec.loadEntry record.payload Payload.rowSource record.id
          = .ok (source, notices) →
        codec.rowOf rows record {} = .ok (takenRow (textRow? rows record.payload) data source,
          dataNotices ++ notices) := fun hsource => rowOf_of_loaded hdata hsource
    refine ⟨?unwritten, fun hnot => ?written⟩
    case unwritten =>
      -- the values are loaded, so it is the provenance that stands in the way
      rintro ⟨-, hdeep' | hsource⟩
      · exact absurd hdeep' hdeep
      rcases hsource.loaded with hload | ⟨source, hload, hunwritable⟩
      · exact ⟨.tooDeep, encode_error_of_loadEntry hrows (Or.inr hload), Or.inl rfl⟩
      · obtain ⟨fault, hencode, hfault⟩ :=
          encodeRow_error_of_rowOf (hrow hload) (by rwa [takenRow_some_source])
        exact ⟨fault, (encode_of_rows hrows record).trans hencode, hfault⟩
    case written =>
      obtain ⟨source, sourceNotices, hsource, hwritable⟩ :=
        exists_source_of_not_unwritten fun hsource => hnot ⟨hsome, Or.inr hsource⟩
      obtain ⟨notices, hencode⟩ := encode_of_loaded hrows hdata hsource
        (writable_takenRow_source (fun _ => flat_of_textRow) hwritable)
      exact ⟨_, notices, hencode⟩

/-- Every document begins with the common parts of its record. -/
theorem exists_others_of_encode {codec : Codec} {record : Record} {encoded : Encoded}
    (h : codec.encode record = .ok encoded) :
    ∃ others, encoded.document = codec.commonParts record ++ others := by
  obtain ⟨hrefused, hwritten⟩ := codec.encode_cases record
  by_cases hunwritten : codec.Unwritten record
  · obtain ⟨fault, hfault, -⟩ := hrefused hunwritten
    cases h.symm.trans hfault
  · obtain ⟨others, notices, hencode⟩ := hwritten hunwritten
    obtain rfl := Except.ok.inj (h.symm.trans hencode)
    exact ⟨others, rfl⟩

/-! ## Stored columns -/

/-- The columns have the names that they are stored under. -/
def StoredNames (rows : RowLayout) (data : Fields) : Prop :=
  rows.normalize = true → ∀ field ∈ data, Column.stored field.1 = field.1

/-- A stored column is a column of the row under its stored name. -/
theorem exists_of_mem_storedColumns {rows : RowLayout} {data : Fields} {field : String × Value}
    (h : field ∈ storedColumns rows data) :
    ∃ key, (key, field.2) ∈ data ∧ (rows.normalize = true → field.1 = Column.stored key) := by
  unfold storedColumns at h
  split at h
  case isTrue hnormalize =>
    obtain ⟨⟨key, v⟩, hmem, rfl⟩ := List.mem_map.mp (Entries.mem_of_mem_ofPairs h)
    exact ⟨key, hmem, fun _ => rfl⟩
  case isFalse hnormalize => exact ⟨field.1, h, fun hn => absurd hn hnormalize⟩

theorem storedNames_storedColumns (rows : RowLayout) (data : Fields) :
    StoredNames rows (storedColumns rows data) := by
  intro hnormalize field hfield
  obtain ⟨key, -, hname⟩ := exists_of_mem_storedColumns hfield
  rw [hname hnormalize, Column.stored_stored]

/-- **Columns that have their stored names already stay as they are.** -/
theorem storedColumns_eq_self {rows : RowLayout} {data : Fields} (hkeys : data.names.Nodup)
    (hnames : StoredNames rows data) : storedColumns rows data = data := by
  unfold storedColumns
  split
  case isTrue hnormalize =>
    -- no name changes, and none is there twice
    have hsame : data.map (fun field => (Column.stored field.1, field.2)) = data := by
      refine (List.map_congr_left fun field hfield => ?_).trans (List.map_id data)
      exact Prod.ext (hnames hnormalize field hfield) rfl
    exact (congrArg Entries.ofPairs hsame).trans (Entries.ofPairs_eq_self hkeys)
  case isFalse => rfl

theorem storedColumns_eq_nil_iff (rows : RowLayout) (data : Fields) :
    storedColumns rows data = [] ↔ data = [] := by
  unfold storedColumns
  split
  case isTrue => rw [Entries.ofPairs_eq_nil_iff, List.map_eq_nil_iff]
  case isFalse => rfl

/-- Stored columns repeat no key if those of the row do not. -/
theorem wellKeyed_storedColumns (rows : RowLayout) {data : Fields}
    (h : (Value.map data).WellKeyed) : (Value.map (storedColumns rows data)).WellKeyed := by
  refine ⟨?_, (wellKeyedFields_iff _).mpr fun field hfield => ?_⟩
  · unfold storedColumns
    split
    case isTrue => exact Entries.nodup_names_ofPairs _
    case isFalse => exact h.1
  · obtain ⟨key, hmem, -⟩ := exists_of_mem_storedColumns hfield
    exact (wellKeyedFields_iff data).mp h.2 (key, field.2) hmem

theorem scalars_storedColumns (rows : RowLayout) {p : Value → Prop} {data : Fields}
    (h : (Value.map data).Scalars p) : (Value.map (storedColumns rows data)).Scalars p := by
  refine (scalarsFields_iff p _).mpr fun field hfield => ?_
  obtain ⟨key, hmem, -⟩ := exists_of_mem_storedColumns hfield
  exact (scalarsFields_iff p data).mp h (key, field.2) hmem

/-- Stored columns nest no deeper than those of the row. -/
theorem depth_storedColumns (rows : RowLayout) (data : Fields) :
    (Value.map (storedColumns rows data)).depth ≤ (Value.map data).depth := by
  by_cases hdata : data = []
  · rw [(storedColumns_eq_nil_iff rows data).mpr hdata]
    exact Nat.zero_le _
  · have hdepth : (Value.map data).depth = depthFields data + 1 := by
      rw [depth, if_neg (mt List.isEmpty_iff.mp hdata)]
    rw [hdepth]
    refine depth_map_le_succ fun field hfield => ?_
    obtain ⟨key, hmem, -⟩ := exists_of_mem_storedColumns hfield
    exact (depthFields_le_iff data _).mp (Nat.le_refl _) (key, field.2) hmem

/-- Stored columns can be written if those of the row can. -/
theorem writable_storedColumns (rows : RowLayout) {room : Nat} {data : Fields}
    (h : Writable room (.map data)) : Writable room (.map (storedColumns rows data)) :=
  ⟨(depth_storedColumns rows data).trans h.depth, scalars_storedColumns rows h.short⟩

/-! ## Provenance -/

/-- Every value of the provenance is a text. -/
def HoldsTexts (source : Fields) : Prop := ∀ field ∈ source, ∃ s, field.2 = .text s

theorem holdsTexts_sourceTexts (source : Fields) : HoldsTexts (sourceTexts source) := by
  intro field hfield
  obtain ⟨⟨key, v⟩, -, rfl⟩ := List.mem_map.mp hfield
  exact ⟨v.display, rfl⟩

/-- **Provenance that holds texts already stays as it is.** -/
theorem sourceTexts_eq_self {source : Fields} (h : HoldsTexts source) :
    sourceTexts source = source := by
  refine (List.map_congr_left fun field hfield => ?_).trans (List.map_id source)
  obtain ⟨s, hs⟩ := h field hfield
  obtain ⟨key, v⟩ := field
  obtain rfl : v = .text s := hs
  rfl

theorem scalars_sourceTexts {p : Value → Prop} (h : ∀ s, p (.text s)) (source : Fields) :
    (Value.map (sourceTexts source)).Scalars p := by
  refine (scalarsFields_iff p _).mpr fun field hfield => ?_
  obtain ⟨s, hs⟩ := holdsTexts_sourceTexts source field hfield
  rw [hs]
  exact h s

theorem wellKeyed_sourceTexts {source : Fields} (h : (Value.map source).WellKeyed) :
    (Value.map (sourceTexts source)).WellKeyed := by
  have hnames : (sourceTexts source).map (·.1) = source.map (·.1) := by
    rw [sourceTexts, List.map_map]
    rfl
  refine ⟨hnames ▸ h.1, (wellKeyedFields_iff _).mpr fun field hfield => ?_⟩
  obtain ⟨s, hs⟩ := holdsTexts_sourceTexts source field hfield
  rw [hs]
  trivial

/-- Stored provenance is a map of texts and nests no deeper. -/
theorem depth_sourceTexts (source : Fields) : (Value.map (sourceTexts source)).depth ≤ 1 := by
  refine depth_map_le_succ fun field hfield => ?_
  obtain ⟨s, hs⟩ := holdsTexts_sourceTexts source field hfield
  rw [hs]
  exact Nat.le_refl 0

/-- Stored provenance can be written wherever one map can be opened. -/
theorem writable_sourceTexts {room : Nat} (hroom : 0 < room) (source : Fields) :
    Writable room (.map (sourceTexts source)) :=
  ⟨(depth_sourceTexts source).trans hroom, scalars_sourceTexts (fun _ => trivial) source⟩

end SheetRecall.Codec
