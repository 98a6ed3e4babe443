import SheetRecall.Proofs.Document.Decode
import SheetRecall.Proofs.Document.Row
import SheetRecall.Proofs.Json.Reordered

/-!
# Records Keep Their Row

A record that is written to the store and read back is written again as the same row.  The row may
come from JSON or a map in the payload, from its text, or be absent, and its provenance likewise;
decoding puts both into the payload as JSON, where encoding finds them again.

## What is asked of the record
- No map in its payload repeats a key.
- Neither entry of the payload holds a map without fields: such an entry hides the text when the
  record is written, but not when it is read back.
- Neither entry nests more deeply than JSON is read and written (`ShallowEntry`): beyond that the
  record has no document, or its document is not read (`deep_row_unkept`).
- The scalars of the row are read back from their JSON (`Json.Readable`): no double is the one
  that is no number, and no integer has more digits than are read.  No integer of the provenance is
  longer either.

## Main statement
`encode_decode_encode`.  What goes into the payload is found there again (`loadEntry_again`), a
stored row is stored as it is (`takenRow_again`), and where nothing was put the payload gives what
it gave before.
-/

namespace SheetRecall

namespace Codec

open SheetRecall.Value

/-! ## The row in the payload -/

section Payload

variable {codec : Codec} {payload payload' : Fields}

/-- A value is put under its own name only, and not at all if it is void. -/
theorem get?_putJson {key : String} {value : Value}
    (h : codec.putJson payload key value = .ok payload') (other : String) :
    payload'.get? other
      = if value.isVoid = false ∧ key = other then some (.text (Json.write codec.style value))
        else payload.get? other := by
  unfold putJson at h
  split at h
  case isTrue hvoid =>
    cases h
    rw [if_neg fun h => by simp [hvoid] at h]
  case isFalse hvoid =>
    obtain ⟨-, -, h⟩ := except_bind_eq_ok_iff.mp h
    cases h
    rw [Entries.get?_put]
    simp [hvoid]

/-- A row changes the payload under its own two names only. -/
theorem get?_putRow_of_ne {row : Value × Value} (h : codec.putRow payload row = .ok payload')
    {key : String} (hdata : key ≠ Payload.rowData) (hsource : key ≠ Payload.rowSource) :
    payload'.get? key = payload.get? key := by
  obtain ⟨between, hbetween, h⟩ := except_bind_eq_ok_iff.mp h
  simp only [get?_putJson h, get?_putJson hbetween, hdata.symm, hsource.symm, and_false, if_false]

theorem payload_names : Payload.rowData ≠ Payload.rowSource ∧ Payload.rowData ≠ Payload.rowText
    ∧ Payload.rowSource ≠ Payload.rowText := by decide

/-- What the payload holds under a name after a row was put there. -/
theorem get?_putRow {data source : Fields}
    (h : codec.putRow payload (.map data, .map source) = .ok payload') :
    payload'.get? Payload.rowData
        = (if data = [] then payload.get? Payload.rowData
          else some (.text (Json.write codec.style (.map data))))
      ∧ payload'.get? Payload.rowSource
        = (if source = [] then payload.get? Payload.rowSource
          else some (.text (Json.write codec.style (.map source))))
      ∧ payload'.get? Payload.rowText = payload.get? Payload.rowText := by
  obtain ⟨hsource, htext, htext'⟩ := payload_names
  have hdata := hsource.symm
  obtain ⟨between, hbetween, hlast⟩ := except_bind_eq_ok_iff.mp h
  refine ⟨?_, ?_, ?_⟩
  · simp only [get?_putJson hlast, get?_putJson hbetween, hdata, and_false, if_false, and_true,
      isVoid]
    cases data <;> rfl
  · simp only [get?_putJson hlast, get?_putJson hbetween, hsource, and_false, if_false, and_true,
      isVoid]
    cases source <;> rfl
  · exact get?_putRow_of_ne h htext.symm htext'.symm

theorem exists_putJson (payload : Fields) (key : String) {value : Value}
    (h : Writable codec.manner.maxDepth value) :
    ∃ payload', codec.putJson payload key value = .ok payload' := by
  have hcheck :=
    (decides_checkWritable _ _).ok_iff.mpr ((Json.writable_styled_iff codec.style).mpr h)
  unfold putJson
  split
  case isTrue => exact ⟨_, rfl⟩
  case isFalse => exact ⟨_, by rw [hcheck]; rfl⟩

/-- A row that can be written is put into the payload. -/
theorem exists_putRow (payload : Fields) {data source : Value}
    (hdata : Writable codec.manner.maxDepth data)
    (hsource : Writable codec.manner.maxDepth source) :
    ∃ payload', codec.putRow payload (data, source) = .ok payload' := by
  obtain ⟨between, hbetween⟩ := exists_putJson payload Payload.rowData hdata
  obtain ⟨payload', hpayload'⟩ := exists_putJson between Payload.rowSource hsource
  exact ⟨payload', except_bind_eq_ok_iff.mpr ⟨between, hbetween, hpayload'⟩⟩

/-- A row with columns that cannot be written is not put anywhere. -/
theorem exists_putRow_error (payload : Fields) {data : Fields} (source : Value)
    (h : ¬Writable codec.manner.maxDepth (.map data)) :
    ∃ fault, codec.putRow payload (.map data, source) = .error fault ∧ IsUnwritable fault := by
  obtain ⟨fault, hcheck, hfault⟩ := (decides_checkWritable _ codec.manner.maxDepth).exists_error
    (mt (Json.writable_styled_iff codec.style).mp h)
  refine ⟨fault, except_bind_eq_error_iff.mpr (Or.inl ?_), hfault⟩
  -- a map without fields would be nothing to write
  have hvoid : (Value.map data).isVoid = false := by
    cases data with
    | nil => exact absurd ⟨Nat.zero_le _, trivial⟩ h
    | cons => rfl
  rw [putJson, hvoid, hcheck]
  rfl

end Payload

/-! ## Loading it again -/

/-- What is loaded where fields were put as JSON: nothing if there were no fields, else the fields
again, sorted if the style sorts. -/
inductive Reloaded (style : Json.Style) : Fields → Option Fields → Prop where
  | nothing : Reloaded style [] none
  | fields {written again : Fields} (hne : written ≠ [])
      (hagain : Json.styled style (.map written) = .map again) : Reloaded style written (some again)

theorem Reloaded.eq_nil {style : Json.Style} {written : Fields} (h : Reloaded style written none) :
    written = [] := by
  cases h
  rfl

/-- The JSON of a map in a style is that of a map with the same fields. -/
theorem exists_styled_map (style : Json.Style) (written : Fields) :
    ∃ again, Json.styled style (.map written) = .map again
      ∧ Json.sorted (.map again) = Json.sorted (.map written)
      ∧ (again.map (·.1)).Perm (written.map (·.1))
      ∧ ∀ field ∈ again, ∃ v, (field.1, v) ∈ written ∧ (field.2 = v ∨ field.2 = Json.sorted v) := by
  unfold Json.styled
  split
  case isTrue =>
    -- a style that sorts writes the sorted map
    refine ⟨_, Json.sorted_map written, ?_, Json.keys_mergeSort_perm written, ?_⟩
    · rw [← Json.sorted_map, Json.sorted_sorted]
    · intro field hfield
      obtain ⟨key, v, hmem, rfl⟩ := Json.mem_sortedFields_mergeSort.mp hfield
      exact ⟨v, hmem, Or.inr rfl⟩
  case isFalse =>
    exact ⟨written, rfl, rfl, List.Perm.refl _, fun field hfield => ⟨field.2, hfield, Or.inl rfl⟩⟩

/-- Provenance that is loaded again holds texts, as it was stored. -/
theorem Reloaded.holdsTexts {style : Json.Style} {written again : Fields}
    (h : Reloaded style written (some again)) (htexts : HoldsTexts written) :
    HoldsTexts again := by
  cases h with
  | fields hne hstyled =>
    obtain ⟨again', hagain', -, -, hfields⟩ := exists_styled_map style written
    obtain rfl := Value.map.inj (hstyled.symm.trans hagain')
    intro field hfield
    obtain ⟨v, hmem, hv⟩ := hfields field hfield
    obtain ⟨s, rfl⟩ := htexts _ hmem
    -- sorting leaves a text as it is
    rcases hv with hv | hv
    · exact ⟨s, hv⟩
    · exact ⟨s, hv⟩

/-- The JSON of a map in the payload is loaded as that map, in the order of the style, if it nests
no more deeply than the reader follows. -/
theorem loadEntry_of_written {codec : Codec} {payload written : Fields} {key : String}
    {style : Json.Style}
    (hput : payload.get? key = some (.text (Json.write style (.map written))))
    (hread : (Value.map written).Scalars (Json.Readable codec.manner))
    (hkeyed : (Value.map written).WellKeyed) (id : String) :
    ∃ again, Json.styled style (.map written) = .map again
      ∧ codec.loadEntry payload key id
        = if (Value.map written).depth ≤ codec.manner.maxDepth then .ok (some again, [])
          else .error .tooDeep := by
  obtain ⟨again, hagain, -⟩ := exists_styled_map style written
  have hjson := Json.read_write hread hkeyed style
  rw [Json.within, hagain] at hjson
  refine ⟨again, hagain, ?_⟩
  rw [loadEntry, hput]
  by_cases hdepth : (Value.map written).depth ≤ codec.manner.maxDepth
  · rw [if_pos hdepth] at hjson ⊢
    simp only [hjson]
  · rw [if_neg hdepth] at hjson ⊢
    simp only [hjson]

/-- **What was put into the payload is loaded from it again**; where nothing was put, what was
loaded before is loaded again. -/
theorem loadEntry_again {codec : Codec} {payload payload' written : Fields} {key id : String}
    {loaded : Option Fields} {notices : List Notice}
    (hloaded : codec.loadEntry payload key id = .ok (loaded, notices))
    (hnothing : written = [] → loaded = none)
    (hput : payload'.get? key = if written = [] then payload.get? key
      else some (.text (Json.write codec.style (.map written))))
    (hread : (Value.map written).Scalars (Json.Readable codec.manner))
    (hkeyed : (Value.map written).WellKeyed)
    (hdepth : (Value.map written).depth ≤ codec.manner.maxDepth) :
    ∃ again notices', codec.loadEntry payload' key id = .ok (again, notices')
      ∧ Reloaded codec.style written again := by
  by_cases hwritten : written = []
  · -- nothing was put for no fields, so the entry is what it was
    rw [if_pos hwritten] at hput
    rw [loadEntry_congr codec hput id, hloaded, hnothing hwritten, hwritten]
    exact ⟨none, notices, rfl, Reloaded.nothing⟩
  · rw [if_neg hwritten] at hput
    obtain ⟨again, hagain, hload⟩ := loadEntry_of_written hput hread hkeyed id
    rw [if_pos hdepth] at hload
    exact ⟨some again, [], hload, Reloaded.fields hwritten hagain⟩

/-! ## Taking it again -/

/-- If the row that is taken has no values, then none were loaded: an entry without fields is
excluded. -/
theorem takenRow_data_eq_nil {text : Option Legacy.Row} {data source : Option Fields}
    (hdata : data ≠ some []) (h : (takenRow text data source).data.getD [] = []) :
    data = none ∧ ∀ row, text = some row → row.data = [] := by
  cases data with
  | some data => exact absurd (congrArg some h) hdata
  | none =>
    refine ⟨rfl, ?_⟩
    rintro row rfl
    exact h

/-- If the row that is taken has no provenance, then none was loaded, and none came from the text
unless values were loaded. -/
theorem takenRow_source_eq_nil {text : Option Legacy.Row} {data source : Option Fields}
    (hsource : source ≠ some []) (h : (takenRow text data source).source.getD [] = []) :
    source = none ∧ (data = none → ∀ row, text = some row → row.source = []) := by
  have hnone : source = none := by
    cases source with
    | none => rfl
    | some source =>
      refine absurd (congrArg some ?_) hsource
      cases data with
      | some data => exact h
      | none => cases text <;> exact h
  refine ⟨hnone, ?_⟩
  rintro rfl row rfl
  rw [hnone] at h
  exact h

section Again

variable {style : Json.Style} {rows : RowLayout} {text : Option Legacy.Row}
  {data source data' source' : Option Fields}

/-- The columns that are taken again are stored as they were. -/
theorem takenRow_again_data (hdata : data ≠ some [])
    (hkeyed : (Value.map ((takenRow text data source).data.getD [])).WellKeyed)
    (hagain :
      Reloaded style (storedColumns rows ((takenRow text data source).data.getD [])) data') :
    Json.sorted (.map (storedColumns rows ((takenRow text data' source').data.getD [])))
      = Json.sorted (.map (storedColumns rows ((takenRow text data source).data.getD []))) := by
  generalize hwritten : storedColumns rows ((takenRow text data source).data.getD []) = written
    at hagain
  cases hagain with
  | nothing =>
    -- no columns were stored, so none were loaded and the text has none
    have hempty := (storedColumns_eq_nil_iff rows _).mp hwritten
    obtain ⟨-, htext⟩ := takenRow_data_eq_nil hdata hempty
    have hnothing : (takenRow text none source').data.getD [] = [] := by
      cases text with
      | none => rfl
      | some row => exact htext row rfl
    rw [hnothing, (storedColumns_eq_nil_iff rows []).mpr rfl]
  | fields hne hstyled =>
    rename_i again
    obtain ⟨again', hagain', hsorted, hkeys, hfields⟩ := exists_styled_map style written
    obtain rfl := Value.map.inj (hstyled.symm.trans hagain')
    -- the columns come from the store, under the names that they have there
    have hstored : StoredNames rows again := by
      intro hnormalize field hfield
      obtain ⟨v, hmem, -⟩ := hfields field hfield
      exact storedNames_storedColumns rows _ hnormalize (field.1, v) (hwritten ▸ hmem)
    have hnodup : (Entries.names again).Nodup :=
      hkeys.nodup_iff.mpr (hwritten ▸ wellKeyed_storedColumns rows hkeyed).1
    change Json.sorted (.map (storedColumns rows again)) = _
    rw [storedColumns_eq_self hnodup hstored, hsorted]

theorem takenRow_again_source (hsource : source ≠ some []) (hdata' : data' = none → data = none)
    (hagain : Reloaded style (sourceTexts ((takenRow text data source).source.getD [])) source') :
    Json.sorted (.map (sourceTexts ((takenRow text data' source').source.getD [])))
      = Json.sorted (.map (sourceTexts ((takenRow text data source).source.getD []))) := by
  generalize hwritten : sourceTexts ((takenRow text data source).source.getD []) = written
    at hagain
  cases hagain with
  | nothing =>
    -- no provenance was put, so the text had none to give, and it has none the second time
    have hempty : (takenRow text data source).source.getD [] = [] := List.map_eq_nil_iff.mp hwritten
    obtain ⟨-, htext⟩ := takenRow_source_eq_nil hsource hempty
    have hnothing : (takenRow text data' none).source.getD [] = [] := by
      cases data' with
      | some data' => rfl
      | none =>
        cases text with
        | none => rfl
        | some row => exact htext (hdata' rfl) row rfl
    rw [hnothing]
    rfl
  | fields hne hstyled =>
    rename_i again
    have htexts : HoldsTexts again :=
      (Reloaded.fields hne hstyled).holdsTexts (hwritten ▸ holdsTexts_sourceTexts _)
    obtain ⟨again', hagain', hsorted, -⟩ := exists_styled_map style written
    obtain rfl := Value.map.inj (hstyled.symm.trans hagain')
    -- loaded provenance counts, wherever the values come from
    rw [takenRow_some_source, Option.getD_some, sourceTexts_eq_self htexts, hsorted]

end Again

/-! ## Decoding -/

/-- The text is not asked for a row where columns are stored, and changes nothing where it holds
none. -/
theorem documentRow_of_kept (codec : Codec) {rows : RowLayout} (record : Record) (row : GivenRow)
    (h : row.data.getD [] ≠ [] ∨ textRow? rows record.payload = none) :
    documentRow rows (codec.commonParts record ++ rowParts rows row) record.payload
      = (.map (storedColumns rows (row.data.getD [])),
        .map (sourceTexts (row.source.getD []))) := by
  have hcolumns : part (codec.commonParts record ++ rowParts rows row) Part.data
      = .map (storedColumns rows (row.data.getD [])) := rfl
  have htexts : part (codec.commonParts record ++ rowParts rows row) Part.source
      = .map (sourceTexts (row.source.getD [])) := rfl
  rw [documentRow, hcolumns, htexts]
  split
  case isTrue => rfl
  case isFalse hvoid =>
    simp only [isVoid, Bool.not_eq_true, Bool.not_eq_false', List.isEmpty_iff,
      storedColumns_eq_nil_iff] at hvoid
    simp only [h.resolve_left (not_not_intro hvoid)]

/-- A row in the text stands in for columns where none are stored, and for provenance where there
is none of that either. -/
theorem documentRow_of_textRow (codec : Codec) {rows : RowLayout} {record : Record}
    (row : GivenRow) {textRow : Legacy.Row} (hempty : row.data.getD [] = [])
    (htext : textRow? rows record.payload = some textRow) :
    documentRow rows (codec.commonParts record ++ rowParts rows row) record.payload
      = (.map (storedColumns rows textRow.data),
        .map (if row.source.getD [] = [] then textRow.source
          else sourceTexts (row.source.getD []))) := by
  have hcolumns : part (codec.commonParts record ++ rowParts rows row) Part.data = .map [] := by
    rw [← (storedColumns_eq_nil_iff rows _).mpr hempty]
    rfl
  have htexts : part (codec.commonParts record ++ rowParts rows row) Part.source
      = .map (sourceTexts (row.source.getD [])) := rfl
  rw [documentRow, hcolumns, htexts]
  simp only [isVoid, List.isEmpty_nil, Bool.not_true, Bool.false_eq_true, if_false, htext,
    List.isEmpty_iff, sourceTexts, List.map_eq_nil_iff, apply_ite Value.map]

/-- The row of a document is the row that was written to it: the text of the payload adds nothing
to a row that it had a part in before. -/
theorem documentRow_rowParts (codec : Codec) (rows : RowLayout) (record : Record)
    {data source : Option Fields} (hdata : data ≠ some []) (hsource : source ≠ some []) :
    let row := takenRow (textRow? rows record.payload) data source
    documentRow rows (codec.commonParts record ++ rowParts rows row) record.payload
      = (.map (storedColumns rows (row.data.getD [])),
        .map (sourceTexts (row.source.getD []))) := by
  intro row
  -- the row was taken with its text; decoding may only ask that text again
  by_cases hkept : row.data.getD [] ≠ [] ∨ textRow? rows record.payload = none
  · exact documentRow_of_kept codec record row hkept
  · obtain ⟨hvoid, hholds⟩ := not_or.mp hkept
    have hvoid := not_not.mp hvoid
    obtain ⟨textRow, htext⟩ := Option.ne_none_iff_exists'.mp hholds
    -- the text is asked again, but its row was taken before and has no columns
    obtain ⟨hnone, hempty⟩ := takenRow_data_eq_nil hdata hvoid
    rw [documentRow_of_textRow codec row hvoid htext, hempty textRow htext, hvoid]
    split
    case isTrue hprovenance =>
      obtain ⟨-, hfromText⟩ := takenRow_source_eq_nil hsource hprovenance
      rw [hfromText hnone textRow htext, hprovenance]
      rfl
    case isFalse => rfl

/-- A document that was written for a record is read as that record with the stored row in its
payload. -/
theorem decode_document {codec : Codec} {rows : RowLayout} (hrows : codec.rows = some rows)
    {record : Record} (hkeys : record.payload.names.Nodup) {data source : Option Fields}
    (hdata : data ≠ some []) (hsource : source ≠ some []) {payload : Fields} (withVector : Bool) :
    let row := takenRow (textRow? rows record.payload) data source
    codec.putRow record.payload (.map (storedColumns rows (row.data.getD [])),
        .map (sourceTexts (row.source.getD []))) = .ok payload →
    codec.decode withVector (.map (codec.commonParts record ++ rowParts rows row))
      = .ok { record with vector := if withVector then record.vector else [], payload } := by
  intro row hput
  rw [decode_commonParts hrows _ hkeys, documentRow_rowParts codec rows record hdata hsource, hput]
  rfl

/-! ## Main statement -/

/-- Two documents hold the same row of the same file, maps in any order. -/
structure SameRow (d e : Fields) : Prop where
  id : d.get? Part.id = e.get? Part.id
  file : d.get? Part.file = e.get? Part.file
  tags : d.get? Part.tags = e.get? Part.tags
  data : ∃ v w, d.get? Part.data = some v ∧ e.get? Part.data = some w
    ∧ Json.sorted v = Json.sorted w
  source : ∃ v w, d.get? Part.source = some v ∧ e.get? Part.source = some w
    ∧ Json.sorted v = Json.sorted w

/-- The record with a stored row in its payload, whatever its vector is, is written as that row. -/
theorem encode_again {codec : Codec} {rows : RowLayout} (hrows : codec.rows = some rows)
    (hroom : 0 < codec.manner.maxDepth) {record : Record}
    (hkeyed : (Value.map record.payload).WellKeyed) {data source : Option Fields}
    (hdataNe : data ≠ some []) (hsourceNe : source ≠ some [])
    {dataNotices sourceNotices : List Notice}
    (hdata : codec.loadEntry record.payload Payload.rowData record.id = .ok (data, dataNotices))
    (hsource : codec.loadEntry record.payload Payload.rowSource record.id
      = .ok (source, sourceNotices))
    (hread :
      (Value.map ((takenRow (textRow? rows record.payload) data source).data.getD [])).Scalars
        (Json.Readable codec.manner))
    (hdepth : (Value.map ((takenRow (textRow? rows record.payload) data source).data.getD [])).depth
      ≤ codec.manner.maxDepth)
    {payload : Fields} (vector : List Float) :
    let row := takenRow (textRow? rows record.payload) data source
    codec.putRow record.payload (.map (storedColumns rows (row.data.getD [])),
        .map (sourceTexts (row.source.getD []))) = .ok payload →
    ∃ encoded, codec.encode { record with vector, payload } = .ok encoded
      ∧ SameRow encoded.document (codec.commonParts record ++ rowParts rows row) := by
  intro row hput
  obtain ⟨hputData, hputSource, hputText⟩ := get?_putRow hput
  -- the stored row repeats no key, wherever it comes from
  have hdataKeyed : ∀ fields, data = some fields → (Value.map fields).WellKeyed := by
    rintro fields rfl
    exact wellKeyed_of_loadEntry hkeyed hdata
  have hsourceKeyed : ∀ fields, source = some fields → (Value.map fields).WellKeyed := by
    rintro fields rfl
    exact wellKeyed_of_loadEntry hkeyed hsource
  obtain ⟨hkeyedData, hkeyedSource⟩ :=
    wellKeyed_takenRow (fun _ => flat_of_textRow) hdataKeyed hsourceKeyed
  -- nothing is put for an empty part, and nothing was loaded for it either
  have hnoData : storedColumns rows (row.data.getD []) = [] → data = none := by
    intro hempty
    exact (takenRow_data_eq_nil hdataNe ((storedColumns_eq_nil_iff rows _).mp hempty)).1
  have hnoSource : sourceTexts (row.source.getD []) = [] → source = none := by
    intro hempty
    exact (takenRow_source_eq_nil hsourceNe (List.map_eq_nil_iff.mp hempty)).1
  obtain ⟨data', notices, hdata', hreloaded⟩ := loadEntry_again hdata hnoData hputData
    (scalars_storedColumns rows hread) (wellKeyed_storedColumns rows hkeyedData)
    ((depth_storedColumns rows _).trans hdepth)
  obtain ⟨source', notices', hsource', hreloaded'⟩ := loadEntry_again hsource hnoSource hputSource
    (scalars_sourceTexts (fun _ => trivial) _) (wellKeyed_sourceTexts hkeyedSource)
    ((depth_sourceTexts _).trans hroom)
  -- the text of the payload is untouched, so it holds the same row
  have htext : textRow? rows payload = textRow? rows record.payload := by
    rw [textRow?, textRow?, hputText]
  -- the provenance is made of texts, whether it is loaded or comes from the text
  have hwritable : ∀ field ∈ (takenRow (textRow? rows payload) data' source').source.getD [],
      Writable codec.manner.maxDepth field.2 := by
    refine writable_takenRow_source (fun _ => flat_of_textRow) ?_
    rintro fields rfl field hfield
    obtain ⟨s, hs⟩ := hreloaded'.holdsTexts (holdsTexts_sourceTexts _) field hfield
    exact hs ▸ writable_text _ s
  let again : Record := { record with vector, payload }
  have hloadData : codec.loadEntry again.payload Payload.rowData again.id
      = .ok (data', notices) := hdata'
  obtain ⟨noticesAgain, hencode⟩ := encode_of_loaded hrows hloadData hsource' hwritable
  rw [htext] at hencode
  refine ⟨_, hencode, rfl, rfl, rfl, ?_, ?_⟩
  · exact ⟨_, _, rfl, rfl, takenRow_again_data hdataNe hkeyedData hreloaded⟩
  · have hdataNone : data' = none → data = none := by
      rintro rfl
      exact hnoData hreloaded.eq_nil
    exact ⟨_, _, rfl, rfl, takenRow_again_source hsourceNe hdataNone hreloaded'⟩

/-- An entry of the payload nests no more deeply than JSON is read and written, be it JSON or a
map. -/
structure ShallowEntry (codec : Codec) (record : Record) (key : String) : Prop where
  json : ¬codec.DeepEntry record key
  map : ∀ fields, record.payload.get? key = some (.map fields) →
    (Value.map fields).depth ≤ codec.manner.maxDepth

/-- A map that is loaded from such an entry nests no more deeply. -/
theorem ShallowEntry.depth_le {codec : Codec} {record : Record} {key : String}
    (h : codec.ShallowEntry record key) {fields : Fields} {notices : List Notice}
    (hload : codec.loadEntry record.payload key record.id = .ok (some fields, notices)) :
    (Value.map fields).depth ≤ codec.manner.maxDepth :=
  (writable_of_loadEntry hload).elim (h.map fields) Writable.depth

/-- **A record that is read back from its document is written as the same row**, if no entry of its
payload is explicitly empty and none nests more deeply than JSON is read and written. -/
theorem encode_decode_encode (codec : Codec) {rows : RowLayout} (hrows : codec.rows = some rows)
    (hroom : 0 < codec.manner.maxDepth) (record : Record)
    (hkeyed : (Value.map record.payload).WellKeyed)
    (hdata : ∀ notices, codec.loadEntry record.payload Payload.rowData record.id
      ≠ .ok (some [], notices))
    (hsource : ∀ notices, codec.loadEntry record.payload Payload.rowSource record.id
      ≠ .ok (some [], notices))
    (hshallowData : codec.ShallowEntry record Payload.rowData)
    (hshallowSource : codec.ShallowEntry record Payload.rowSource)
    (hread : ∀ row notices, codec.rowOf rows record {} = .ok (row, notices) →
      (Value.map (row.data.getD [])).Scalars (Json.Readable codec.manner)
        ∧ (Value.map (row.source.getD [])).Scalars IsShort)
    (withVector : Bool) :
    ∃ encoded again encodedAgain, codec.encode record = .ok encoded
      ∧ codec.decode withVector (.map encoded.document) = .ok again
      ∧ codec.encode again = .ok encodedAgain
      ∧ SameRow encodedAgain.document encoded.document := by
  obtain ⟨data, dataNotices, hloadData⟩ := exists_loadEntry hshallowData.json
  obtain ⟨source, sourceNotices, hloadSource⟩ := exists_loadEntry hshallowSource.json
  obtain ⟨hreadData, hshort⟩ := hread _ _ (rowOf_of_loaded hloadData hloadSource)
  -- no entry is explicitly empty
  have hdataNe : data ≠ some [] := by
    rintro rfl
    exact hdata dataNotices hloadData
  have hsourceNe : source ≠ some [] := by
    rintro rfl
    exact hsource sourceNotices hloadSource
  let row := takenRow (textRow? rows record.payload) data source
  -- what comes from an entry nests no deeper than the entry, what comes from the text not at all
  obtain ⟨hdepthData, hdepthSource⟩ : (Value.map (row.data.getD [])).depth ≤ codec.manner.maxDepth
      ∧ (Value.map (row.source.getD [])).depth ≤ codec.manner.maxDepth :=
    depth_takenRow_le (fun _ => flat_of_textRow) hroom
      (fun fields h => hshallowData.depth_le (h ▸ hloadData))
      (fun fields h => hshallowSource.depth_le (h ▸ hloadSource))
  have hwritableData : Writable codec.manner.maxDepth (.map (row.data.getD [])) :=
    ⟨hdepthData, hreadData.imp fun _ => Json.isShort_of_readable⟩
  have hwritableSource : ∀ field ∈ row.source.getD [], Writable codec.manner.maxDepth field.2 :=
    Writable.fields ⟨hdepthSource, hshort⟩
  obtain ⟨notices, hencode⟩ := encode_of_loaded hrows hloadData hloadSource hwritableSource
  obtain ⟨payload, hput⟩ := exists_putRow record.payload
    (writable_storedColumns rows hwritableData) (writable_sourceTexts hroom (row.source.getD []))
  have hdecode := decode_document hrows hkeyed.1 hdataNe hsourceNe withVector hput
  obtain ⟨encodedAgain, hagain, hsame⟩ := encode_again hrows hroom hkeyed hdataNe hsourceNe
    hloadData hloadSource hreadData hdepthData _ hput
  exact ⟨_, _, encodedAgain, hencode, hdecode, hagain, hsame⟩

/-- A renamed column and a number in the provenance are kept, and the sorted JSON of the row with
them. -/
theorem encode_decode_encode_renamed :
    let codec : Codec := { style := ⟨true, true⟩, rows := some {} }
    let record : Record := ⟨"r", [], [], [
      (Payload.rowData, .map [("serverPurpose", .text "db"), ("Rows", .list [.int 2, .null])]),
      (Payload.rowSource, .map [("row_number", .int 3)])]⟩
    ∃ encoded again encodedAgain, codec.encode record = .ok encoded
      ∧ codec.decode true (.map encoded.document) = .ok again
      ∧ codec.encode again = .ok encodedAgain
      ∧ SameRow encodedAgain.document encoded.document := by
  intro codec record
  have hrows : codec.rows = some {} := rfl
  have hdata : codec.loadEntry record.payload Payload.rowData record.id = .ok
      (some [("serverPurpose", .text "db"), ("Rows", .list [.int 2, .null])], []) := rfl
  have hsource : codec.loadEntry record.payload Payload.rowSource record.id
      = .ok (some [("row_number", .int 3)], []) := rfl
  have hkeyed : (Value.map record.payload).WellKeyed :=
    ⟨by decide, ⟨by decide, trivial, ⟨trivial, trivial, trivial⟩, trivial⟩,
      ⟨by decide, trivial, trivial⟩, trivial⟩
  have hint : Json.Readable codec.manner (.int 2) := by
    unfold Json.Readable
    decide
  have hshort : IsShort (.int 3) := by
    unfold IsShort
    decide
  -- the record holds maps, which nest no deeper than two levels
  have hshallow : ∀ {key : String} {fields : Fields},
      record.payload.get? key = some (.map fields) →
      (Value.map fields).depth ≤ codec.manner.maxDepth → codec.ShallowEntry record key := by
    intro key fields hget hdepth
    refine ⟨?_, fun others hothers => ?_⟩
    · rintro ⟨s, hs, -⟩
      cases hget.symm.trans hs
    · cases hget.symm.trans hothers
      exact hdepth
  -- the row that is taken is the one the record holds
  have hread : ∀ row notices, codec.rowOf {} record {} = .ok (row, notices) →
      (Value.map (row.data.getD [])).Scalars (Json.Readable codec.manner)
        ∧ (Value.map (row.source.getD [])).Scalars IsShort := by
    intro row notices hrow
    obtain ⟨rfl, -⟩ := Prod.mk.inj (Except.ok.inj ((rowOf_of_loaded hdata hsource).symm.trans hrow))
    exact ⟨⟨trivial, ⟨hint, trivial, trivial⟩, trivial⟩, hshort, trivial⟩
  exact encode_decode_encode codec hrows (by decide) record hkeyed
    (fun notices h => by simp [hdata] at h) (fun notices h => by simp [hsource] at h)
    (hshallow rfl (by decide +kernel)) (hshallow rfl (by decide +kernel)) hread true

/-- A record with a list in 2999 others for its row is refused, so there is nothing to read back. -/
theorem deep_row_unkept :
    let record : Record :=
      ⟨"a", [], [], [(Payload.rowData, .text (Json.write {} (Json.nested 3000)))]⟩
    (Value.map record.payload).WellKeyed
      ∧ (∀ key notices, (tabular {}).loadEntry record.payload key record.id
        ≠ .ok (some [], notices))
      ∧ (Json.nested 3000).Scalars (Json.Readable (tabular {}).manner)
      ∧ (tabular {}).encode record = .error .tooDeep
      ∧ ¬∃ encoded again encodedAgain, (tabular {}).encode record = .ok encoded
        ∧ (tabular {}).decode true (.map encoded.document) = .ok again
        ∧ (tabular {}).encode again = .ok encodedAgain
        ∧ SameRow encodedAgain.document encoded.document := by
  intro record
  -- the text of the row is a list in a list, 3000 times over, which the reader gives up on
  have hload : (tabular {}).loadEntry record.payload Payload.rowData record.id
      = .error .tooDeep :=
    loadEntry_eq_tooDeep_iff.mpr ⟨_, rfl, Json.read_write_nested (by decide) {}⟩
  have hencode : (tabular {}).encode record = .error .tooDeep :=
    encode_error_of_loadEntry rfl (Or.inl hload)
  refine ⟨⟨by decide, trivial, trivial⟩, fun key notices h => ?_,
    Json.scalars_nested trivial 3000, hencode, ?_⟩
  · -- the payload holds one entry, and that is refused
    by_cases hkey : Payload.rowData = key
    · subst hkey
      cases hload.symm.trans h
    · have hnone : record.payload.get? key = none := by
        rw [Entries.get?_cons, if_neg hkey, Entries.get?_nil]
      rw [loadEntry, hnone] at h
      cases h
  · rintro ⟨encoded, _, _, hok, -⟩
    cases hencode.symm.trans hok

end Codec

end SheetRecall
