import SheetRecall.Proofs.Document.Selected

/-!
# Given Rows

A payload may hold a row, as JSON or as a map, and a text beside it that reads as another row.  The
record is written as the row that it is given, and the text counts for nothing.  When the document
is read, the row goes into the payload again, with its columns under the names that they have in
the store.

The two ways differ in how they tell that no row is given.  Writing asks whether the payload holds
one, reading whether there are columns in the document, and a row without columns is one that the
payload can hold.  So such a row loses to a text that holds a row: it is written, but what is read
is the row of the text.

## Layers
- `Carries`: what an entry of the payload is loaded as; `carries_of_written` for JSON that was put
  there.
- `keepsRow_putRow`: a given row that was put into the payload is found there.
- `given_row_kept`: what is read of a record that is given a row, and when that is the row.
- `empty_row_replaced`: a row without columns that is not.
-/

namespace SheetRecall.Codec

open SheetRecall.Value

/-! ## Entries that hold fields -/

/-- An entry of the payload is loaded as a map with these fields.  They may come in another order
if the codec sorts them. -/
def Carries (codec : Codec) (record : Record) (key : String) (fields : Fields) : Prop :=
  ∃ loaded notices, codec.loadEntry record.payload key record.id = .ok (some loaded, notices)
    ∧ Json.Reordered (.map loaded) (.map fields)
    ∧ (codec.style.sortKeys = false → loaded = fields)

/-- Fields that were put into the payload as JSON are carried there. -/
theorem carries_of_written {codec : Codec} {record : Record} {key : String} {written : Fields}
    (hput : record.payload.get? key = some (.text (Json.write codec.style (.map written))))
    (hread : (Value.map written).Scalars (Json.Readable codec.manner))
    (hkeyed : (Value.map written).WellKeyed)
    (hdepth : (Value.map written).depth ≤ codec.manner.maxDepth) :
    codec.Carries record key written := by
  obtain ⟨again, hagain, hload⟩ := loadEntry_of_written hput hread hkeyed record.id
  rw [if_pos hdepth] at hload
  refine ⟨again, [], hload, ?_, fun hsort => ?_⟩
  · rw [← hagain]
    exact Json.reordered_styled codec.style hkeyed
  · rw [Json.styled, hsort] at hagain
    exact (Value.map.inj hagain).symm

/-! ## Rows that are kept -/

/-- The record that is read holds the row that is stored for the one that was written. -/
structure KeepsRow (codec : Codec) (record again : Record) (columns source : Fields) : Prop where
  payload : codec.putRow record.payload (.map columns, .map source) = .ok again.payload
  data : codec.Carries again Payload.rowData columns
  provenance : source ≠ [] → codec.Carries again Payload.rowSource source
  /-- Where no provenance is stored, the entry stays as it was. -/
  unsourced : source = [] →
    again.payload.get? Payload.rowSource = record.payload.get? Payload.rowSource

section Kept

variable {codec : Codec} {rows : RowLayout} {record : Record} {data : Fields}
  {notices : List Notice}

/-- **A given row that is put into the payload with its stored names is found there.** -/
theorem keepsRow_putRow (hroom : 0 < codec.manner.maxDepth)
    (hdata : codec.loadEntry record.payload Payload.rowData record.id = .ok (some data, notices))
    (hread : (Value.map data).Scalars (Json.Readable codec.manner))
    (hkeyed : (Value.map data).WellKeyed) {source payload : Fields}
    (hkeyedSource : (Value.map source).WellKeyed)
    (hput : codec.putRow record.payload
      (.map (storedColumns rows data), .map (sourceTexts source)) = .ok payload)
    (vector : List Float) :
    KeepsRow codec record { record with vector, payload } (storedColumns rows data)
      (sourceTexts source) := by
  obtain ⟨hputData, hputSource, -⟩ := get?_putRow hput
  refine ⟨hput, ?_, fun hne => ?_, fun hempty => ?_⟩
  · by_cases hdataNil : data = []
    · -- nothing is put for no columns, but the entry was empty before
      have hsame : storedColumns rows data = data :=
        ((storedColumns_eq_nil_iff rows data).mpr hdataNil).trans hdataNil.symm
      rw [if_pos (hsame.trans hdataNil)] at hputData
      have hload := (loadEntry_congr codec hputData record.id).trans hdata
      refine ⟨data, notices, hload, ?_, fun _ => hsame.symm⟩
      rw [hsame]
      exact Json.Reordered.refl _
    · -- there was JSON for the columns, so they do not nest too deeply to be read again
      have hwritable : Writable codec.manner.maxDepth (.map (storedColumns rows data)) := by
        by_contra hnot
        obtain ⟨fault, hfault, -⟩ := exists_putRow_error record.payload
          (.map (sourceTexts source)) hnot
        cases hfault.symm.trans hput
      rw [if_neg (mt (storedColumns_eq_nil_iff rows data).mp hdataNil)] at hputData
      exact carries_of_written hputData (scalars_storedColumns rows hread)
        (wellKeyed_storedColumns rows hkeyed) hwritable.depth
  · -- the same for the provenance, whose texts nest no deeper than one level
    rw [if_neg hne] at hputSource
    exact carries_of_written hputSource (scalars_sourceTexts (fun _ => trivial) source)
      (wellKeyed_sourceTexts hkeyedSource) ((depth_sourceTexts source).trans hroom)
  · rw [if_pos hempty] at hputSource
    exact hputSource

end Kept

/-! ## Main statement -/

/-- What is read of a record that is given a row with some columns, when some provenance is stored
with them. -/
structure GivesBack (codec : Codec) (rows : RowLayout) (record again : Record)
    (data source : Fields) : Prop where
  /-- The row is kept if it has columns, and if the text holds no row. -/
  kept : data ≠ [] ∨ textRow? rows record.payload = none →
    KeepsRow codec record again (storedColumns rows data) source
  /-- A row without columns is replaced by one in the text. -/
  replaced : data = [] → ∀ row, textRow? rows record.payload = some row →
    codec.putRow record.payload
      (.map (storedColumns rows row.data), .map (if source = [] then row.source else source))
        = .ok again.payload

/-- **A given row is written whatever the text says, and read back if it has columns.**  The
provenance that is written is the one that the payload holds, never that of the text.  Nothing is
written if that provenance cannot be, and nothing is read if the row is a map that nests too deeply
to be written as JSON. -/
theorem given_row_kept {codec : Codec} {rows : RowLayout} (hrows : codec.rows = some rows)
    (hroom : 0 < codec.manner.maxDepth) (record : Record)
    (hkeyed : (Value.map record.payload).WellKeyed) {data : Fields} {notices : List Notice}
    (hdata : codec.loadEntry record.payload Payload.rowData record.id = .ok (some data, notices))
    (hread : (Value.map data).Scalars (Json.Readable codec.manner)) (withVector : Bool) :
    (codec.Unwritten record → ∃ fault, codec.encode record = .error fault ∧ IsUnwritable fault)
      ∧ (¬codec.Unwritten record → ∃ given sourceNotices encoded,
        codec.loadEntry record.payload Payload.rowSource record.id = .ok (given, sourceNotices)
        ∧ codec.encode record = .ok encoded
        ∧ encoded.document.get? Part.data = some (.map (storedColumns rows data))
        ∧ encoded.document.get? Part.source = some (.map (sourceTexts (given.getD [])))
        ∧ (codec.Unread record → ∃ fault,
          codec.decode withVector (.map encoded.document) = .error fault ∧ IsUnwritable fault)
        ∧ (¬codec.Unread record → ∃ again,
          codec.decode withVector (.map encoded.document) = .ok again
            ∧ GivesBack codec rows record again data (sourceTexts (given.getD [])))) := by
  -- apart from `Unwritten` and `Unread` there is a document, and a record that is read from it
  obtain ⟨hunwritten, hwritten⟩ := encode_cases codec record
  refine ⟨hunwritten, fun hnot => ?_⟩
  obtain ⟨others, encodeNotices, hencode⟩ := hwritten hnot
  obtain ⟨hunread, hagain⟩ := decode_cases hroom hkeyed.1 hencode withVector
  obtain ⟨loaded, given, dataNotices, sourceNotices, hloaded, hsource, hdocument⟩ :=
    exists_loaded_of_encode hrows hencode
  -- the text has no part in the row that is taken
  obtain ⟨rfl, -⟩ := Prod.mk.inj (Except.ok.inj (hdata.symm.trans hloaded))
  have htaken : takenRow (textRow? rows record.payload) (some data) given
      = ⟨some data, given⟩ := rfl
  rw [htaken] at hdocument
  refine ⟨given, sourceNotices, _, hsource, hencode, ?_, ?_, hunread, fun hnotUnread => ?_⟩
  · rw [hdocument]
    rfl
  · rw [hdocument]
    rfl
  obtain ⟨again, hdecode⟩ := hagain hnotUnread
  refine ⟨again, hdecode, ?_⟩
  -- the record that is read is the one that was written, with the row of the document put into it
  rw [hdocument, decode_commonParts hrows _ hkeyed.1] at hdecode
  obtain ⟨payload, hput, rfl⟩ := except_map_eq_ok_iff.mp hdecode
  refine ⟨fun hkept => ?kept, fun hempty row hrow => ?replaced⟩
  -- there is a row in the document, or none in the text to take its place
  case kept =>
    have hkeyedSource : (Value.map (given.getD [])).WellKeyed := by
      cases given with
      | some fields => exact wellKeyed_of_loadEntry hkeyed hsource
      | none => exact Legacy.flat_nil.wellKeyed
    rw [documentRow_of_kept codec record ⟨some data, given⟩ hkept] at hput
    exact keepsRow_putRow hroom hdata hread (wellKeyed_of_loadEntry hkeyed hdata) hkeyedSource
      hput _
  -- an empty row and a text that has one: the text is read
  case replaced =>
    rw [documentRow_of_textRow codec ⟨some data, given⟩ hempty hrow] at hput
    simp only [sourceTexts, List.map_eq_nil_iff]
    exact hput

/-- A text that says what is in one row of a worksheet. -/
def serverText : String := "Worksheet: Servers, Row: 3\nName: db-01\n"

theorem textRow?_serverText {payload : Fields}
    (h : payload.get? Payload.rowText = some (.text serverText)) :
    textRow? {} payload = some ⟨[("Name", .text "db-01")],
      [("worksheet_name", .text "Servers"), ("row_number", .text "3")]⟩ := by
  rw [textRow?, h]
  rfl

/-- A column is renamed and kept, and what the text says about another server is not read. -/
theorem given_row_kept_beside_text :
    let record : Record := ⟨"r", [], [], [
      (Payload.rowData, .text (Json.write {} (.map [("serverPurpose", .text "db")]))),
      (Payload.rowText, .text serverText)]⟩
    textRow? {} record.payload ≠ none ∧ ∃ encoded again,
      (tabular {}).encode record = .ok encoded
      ∧ (tabular {}).decode false (.map encoded.document) = .ok again
      ∧ (tabular {}).Carries again Payload.rowData [("server_purpose", .text "db")]
      ∧ again.payload.get? Payload.rowSource = none := by
  intro record
  have htext : textRow? {} record.payload ≠ none := by
    rw [textRow?_serverText rfl]
    exact Option.some_ne_none _
  -- the three facts about this record that the general theorem asks for
  have hkeyed : (Value.map record.payload).WellKeyed := ⟨by decide, trivial, trivial, trivial⟩
  have hread : (Value.map [("serverPurpose", .text "db")]).Scalars
      (Json.Readable (tabular {}).manner) := ⟨trivial, trivial⟩
  have hdata : (tabular {}).loadEntry record.payload Payload.rowData record.id
      = .ok (some [("serverPurpose", .text "db")], []) := by
    have hput : record.payload.get? Payload.rowData = some (.text
        (Json.write (tabular {}).style (.map [("serverPurpose", .text "db")]))) := rfl
    obtain ⟨again, hagain, hload⟩ :=
      loadEntry_of_written hput hread ⟨by decide, trivial, trivial⟩ record.id
    obtain rfl := Value.map.inj hagain
    exact hload
  -- nothing nests deeply here
  have hwritten : ¬(tabular {}).Unwritten record := not_unwritten_of_loaded hdata rfl
  have hread' : ¬(tabular {}).Unread record := by
    rintro ⟨rows, data, -, hget, -⟩
    cases hget
  obtain ⟨given, sourceNotices, encoded, hsource, hencode, -, -, -, hagain⟩ :=
    (given_row_kept rfl (by decide) record hkeyed hdata hread false).2 hwritten
  obtain ⟨again, hdecode, hback⟩ := hagain hread'
  -- no provenance is given
  obtain rfl : given = none := (Prod.mk.inj (Except.ok.inj hsource)).1.symm
  have hkept := hback.kept (Or.inl (List.cons_ne_nil _ _))
  have hstored : storedColumns {} [("serverPurpose", .text "db")]
      = [("server_purpose", .text "db")] := rfl
  refine ⟨htext, encoded, again, hencode, hdecode, ?_, hkept.unsourced rfl⟩
  rw [← hstored]
  exact hkept.data

/-- **A row without columns is written, and the row of the text is read in its place**, with the
provenance of the text. -/
theorem empty_row_replaced :
    let record : Record := ⟨"a", [], [], [
      (Payload.rowData, .text "\x7b\x7d"),
      (Payload.rowText, .text serverText)]⟩
    (tabular {}).loadEntry record.payload Payload.rowData record.id = .ok (some [], [])
      ∧ ∃ encoded again, (tabular {}).encode record = .ok encoded
        ∧ encoded.document.get? Part.data = some (.map [])
        ∧ encoded.document.get? Part.source = some (.map [])
        ∧ (tabular {}).decode true (.map encoded.document) = .ok again
        ∧ (tabular {}).loadEntry again.payload Payload.rowData again.id
          = .ok (some [("name", .text "db-01")], [])
        ∧ ¬(tabular {}).Carries again Payload.rowData []
        ∧ again.payload.get? Payload.rowSource ≠ record.payload.get? Payload.rowSource := by
  intro record
  let source : Fields := [("worksheet_name", .text "Servers"), ("row_number", .text "3")]
  have hdata : (tabular {}).loadEntry record.payload Payload.rowData record.id
      = .ok (some [], []) := rfl
  have hsource : (tabular {}).loadEntry record.payload Payload.rowSource record.id
      = .ok (none, []) := rfl
  have htext : textRow? {} record.payload = some ⟨[("Name", .text "db-01")], source⟩ :=
    textRow?_serverText rfl
  have hkeys : record.payload.names.Nodup := by decide
  have hrows : (tabular {}).rows = some {} := rfl
  obtain ⟨notices, hencode⟩ := encode_of_loaded hrows hdata hsource (fun _ h => nomatch h)
  -- the row of the text is put where the empty one was
  have hwritable : ∀ {fields : Fields}, (∀ field ∈ fields, ∃ s, field.2 = .text s) →
      Writable (tabular {}).manner.maxDepth (.map fields) := by
    intro fields htexts
    rw [← sourceTexts_eq_self htexts]
    exact writable_sourceTexts (by decide) fields
  obtain ⟨payload, hput⟩ : ∃ payload, (tabular {}).putRow record.payload
      (.map [("name", .text "db-01")], .map source) = .ok payload :=
    exists_putRow record.payload (hwritable (by simp)) (hwritable (by simp [source]))
  have hdecode := decode_commonParts hrows (rowParts {} ⟨some [], none⟩) hkeys true
  have hrow : storedColumns {} [("Name", .text "db-01")] = [("name", .text "db-01")] := rfl
  rw [documentRow_of_textRow (tabular {}) ⟨some [], none⟩ rfl htext, hrow] at hdecode
  -- what stands under the two keys afterwards
  obtain ⟨hputData, hputSource, -⟩ := get?_putRow hput
  simp only [Option.getD_none, if_true, hput] at hdecode
  rw [if_neg (List.cons_ne_nil _ _)] at hputData hputSource
  obtain ⟨again, hagain, hload⟩ :=
    loadEntry_of_written hputData ⟨trivial, trivial⟩ ⟨by decide, trivial, trivial⟩ record.id
  obtain rfl := Value.map.inj hagain
  refine ⟨hdata, _, _, hencode, rfl, rfl, hdecode, hload, ?_, ?_⟩
  · -- what is loaded has a key, and no column has one
    rintro ⟨loaded, loadedNotices, hloaded, -, hsame⟩
    obtain rfl := hsame rfl
    have hnil := (Prod.mk.inj (Except.ok.inj (hload.symm.trans hloaded))).1
    exact List.cons_ne_nil _ _ (Option.some.inj hnil)
  · intro hsame
    exact Option.some_ne_none _ (hputSource.symm.trans hsame)

end SheetRecall.Codec
