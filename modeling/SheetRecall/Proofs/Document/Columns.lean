import SheetRecall.Proofs.Document.Row
import SheetRecall.Proofs.Filter.Meaning
import SheetRecall.Proofs.Value.Same

/-!
# Columns of Documents and Filters on Them

The writing side puts a row's columns under their stored names, the asking side looks for the
stored name of the column that a filter names.  The two agree: a filter on a column holds of a
document exactly when the last column of the row with the same stored name has the value.

## Main statement
`encodeRow_columnFilter`, for a row that is given or carried as a JSON object, and for any
equality of values that the store may use.
-/

namespace SheetRecall

/-! ## What the store asks of documents -/

/-- The atomic predicates of filters, as a store with some equality of values answers them about
documents. -/
def documentReading (equal : Value → Value → Prop) : Filter.Interpretation Fields where
  tagContains key v document :=
    ∃ tags values, document.get? Part.tags = some (.map tags)
      ∧ Entries.get? tags key = some (.list values) ∧ ∃ w ∈ values, equal w v
  columnEquals column v document :=
    ∃ columns w, document.get? Part.data = some (.map columns)
      ∧ Entries.get? columns column = some w ∧ equal w v

/-- The last column of a row that is stored under the same name as a given column has some
value. -/
def LastColumn (normalize : Bool) (data : Fields) (column : String) (w : Value) : Prop :=
  ∃ before key after, data = before ++ (key, w) :: after
    ∧ Filter.columnName normalize key = Filter.columnName normalize column
    ∧ ∀ later ∈ after,
      Filter.columnName normalize later.1 ≠ Filter.columnName normalize column

namespace Codec

/-! ## Stored columns -/

/-- The last column with a stored name is the first one from behind. -/
theorem find?_reverse_eq_some_iff (normalize : Bool) (data : Fields) (column : String)
    (w : Value) :
    ((data.reverse.find? fun field =>
        Filter.columnName normalize field.1 = Filter.columnName normalize column).map (·.2))
        = some w
      ↔ LastColumn normalize data column w := by
  simp only [Option.map_eq_some_iff, List.find?_eq_some_iff_append, decide_eq_true_eq]
  constructor
  · rintro ⟨⟨key, _⟩, ⟨hname, after, before, hdata, hafter⟩, rfl⟩
    refine ⟨before.reverse, key, after.reverse, ?_, hname, ?_⟩
    · simpa using congrArg List.reverse hdata
    · intro later hlater
      simpa using hafter later (List.mem_reverse.mp hlater)
  · rintro ⟨before, key, after, rfl, hname, hafter⟩
    refine ⟨(key, w), ⟨hname, after.reverse, before.reverse, by simp, ?_⟩, rfl⟩
    intro later hlater
    simpa using hafter later (List.mem_reverse.mp hlater)

/-- Under a stored name stands the value of the last column that goes there. -/
theorem get?_storedColumns (rows : RowLayout) {data : Fields} (hkeys : data.names.Nodup)
    (column : String) (w : Value) :
    (storedColumns rows data).get? (Filter.columnName rows.normalize column) = some w
      ↔ LastColumn rows.normalize data column w := by
  rw [← find?_reverse_eq_some_iff]
  unfold storedColumns Filter.columnName
  split
  case isTrue =>
    rw [Entries.get?_ofPairs, ← List.map_reverse]
    exact Eq.congr_left (Entries.get?_map_eq_find? Column.stored data.reverse _)
  case isFalse =>
    -- a map repeats no name, so its last column under a name is its only one
    have hfind := Entries.get?_map_eq_find? id data.reverse column
    simp only [id_eq, List.map_id'] at hfind
    rw [← Entries.get?_reverse hkeys]
    exact Eq.congr_left hfind

/-! ## Rows of documents -/

theorem document_data (codec : Codec) (record : Record) (rows : RowLayout) (row : GivenRow) :
    Entries.get? (codec.commonParts record ++ rowParts rows row) Part.data
      = some (.map (storedColumns rows (row.data.getD []))) := rfl

/-- The row of a record whose values are given or loaded has those values, unless its provenance
cannot be written. -/
theorem encodeRow_of_data {codec : Codec} (rows : RowLayout) {record : Record} {given : GivenRow}
    {data : Fields} {notices : List Notice}
    (hrow : codec.givenOrLoaded given.data record.payload Payload.rowData record.id
      = .ok (some data, notices)) :
    (codec.UnwrittenSource record given.source
        ∧ ∃ fault, codec.encodeRow rows record given = .error fault ∧ Value.IsUnwritable fault)
      ∨ ∃ source notices, codec.encodeRow rows record given
        = .ok ⟨codec.commonParts record ++ rowParts rows ⟨some data, source⟩, notices, none⟩ := by
  -- values that are given or loaded leave nothing for the text to add
  have htaken : ∀ {source sourceNotices},
      codec.givenOrLoaded given.source record.payload Payload.rowSource record.id
        = .ok (source, sourceNotices) →
      codec.rowOf rows record given = .ok (⟨some data, source⟩, notices ++ sourceNotices) := by
    intro source sourceNotices hsource
    simp only [rowOf, hrow, hsource]
    rfl
  -- what is left to fail is the provenance: it is not loaded, or cannot be put into a document
  by_cases hunwritten : codec.UnwrittenSource record given.source
  · refine Or.inl ⟨hunwritten, ?_⟩
    rcases hunwritten.loaded with hdeep | ⟨source, hsource, hnot⟩
    · refine ⟨.tooDeep, ?_, Or.inl rfl⟩
      simp only [encodeRow, rowOf, hrow, hdeep]
      rfl
    · exact encodeRow_error_of_rowOf (htaken hsource) hnot
  · obtain ⟨source, sourceNotices, hsource, hwritable⟩ := exists_source_of_not_unwritten hunwritten
    have hall : ∀ field ∈ source.getD [], Value.Writable codec.manner.maxDepth field.2 := by
      cases source with
      | none => simp
      | some fields => exact hwritable fields rfl
    refine Or.inr ⟨source, notices ++ sourceNotices, ?_⟩
    rw [encodeRow_of_rowOf (htaken hsource),
      (Value.decides_checkWritableFields _ _).ok_iff.mpr hall]
    rfl

/-! ## Main statement -/

/-- **A filter on a column holds of a document exactly when the last column of its row with the
same stored name has the value**, whether the row is given or carried as a JSON object in the
payload.  The document is there unless the provenance cannot be written.  So a value is found under
its column's own spelling, if it is neither null nor holds the double that is no number and no later
column goes under the same name. -/
theorem encodeRow_columnFilter (codec : Codec) (rows : RowLayout) (record : Record)
    (given : GivenRow) {data : Fields} {notices : List Notice}
    (hrow : codec.givenOrLoaded given.data record.payload Payload.rowData record.id
      = .ok (some data, notices))
    (hkeys : data.names.Nodup) (item : String) (equal : Value → Value → Prop) :
    let selects : String → Value → Fields → Prop := fun column v document =>
      (Filter.compile rows.normalize item [Filter.empty.byColumn column v]).Holds
        (documentReading equal) document
    (codec.UnwrittenSource record given.source
        ∧ ∃ fault, codec.encodeRow rows record given = .error fault ∧ Value.IsUnwritable fault)
      ∨ ∃ encoded, codec.encodeRow rows record given = .ok encoded
        ∧ (∀ column v, column ≠ "" → v ≠ .null →
          (selects column v encoded.document
            ↔ ∃ w, LastColumn rows.normalize data column w ∧ equal w v))
        ∧ ((∀ w : Value, w.NanFree → w.WellKeyed → equal w w) →
          ∀ before column v after, data = before ++ (column, v) :: after → column ≠ "" →
            v ≠ .null → v.NanFree → v.WellKeyed →
            (∀ later ∈ after, Filter.columnName rows.normalize later.1
              ≠ Filter.columnName rows.normalize column) →
            selects column v encoded.document) := by
  intro selects
  rcases encodeRow_of_data rows hrow with hunwritten | ⟨source, notices, hencoded⟩
  · exact Or.inl hunwritten
  refine Or.inr ⟨_, hencoded, ?_⟩
  -- the filter compiles to one predicate on the stored name
  have hfilter : ∀ column v, column ≠ "" → v ≠ .null →
      (selects column v (codec.commonParts record ++ rowParts rows ⟨some data, source⟩)
        ↔ ∃ w, LastColumn rows.normalize data column w ∧ equal w v) := by
    intro column v hcolumn hv
    simp only [selects]
    rw [Filter.compile_eq_compileGroups, Filter.compileGroups_holds_iff,
      Filter.selects_byColumn_iff _ _ _ hcolumn hv]
    simp only [documentReading, document_data, Option.getD_some, Option.some.injEq,
      Value.map.injEq, exists_eq_left', exists_and_left, get?_storedColumns rows hkeys]
  refine ⟨hfilter, fun hself before column v after hdata hcolumn hv hnan hkeyed hafter => ?_⟩
  exact (hfilter column v hcolumn hv).mpr
    ⟨v, ⟨before, column, after, hdata, rfl, hafter⟩, hself v hnan hkeyed⟩

/-- Of two columns that are stored as `server_purpose` the later one is found, under its own
spelling, in a record that carries them in its payload. -/
theorem encodeRow_columnFilter_renamed :
    let data : Fields :=
      [("serverPurpose", .text "db"), ("Server_Purpose", .text "web"), ("Rows", .int 2)]
    let record : Record := ⟨"r", [], [], [(Payload.rowData, .map data)]⟩
    ∃ encoded, (tabular {}).encodeRow {} record {} = .ok encoded
      ∧ (Filter.compile true "c" [Filter.empty.byColumn "Server_Purpose" (.text "web")]).Holds
        (documentReading fun w v => w.same v = true) encoded.document := by
  intro data record
  -- the row is given as a dictionary, and there is no provenance to be refused
  have hrow : (tabular {}).givenOrLoaded none record.payload Payload.rowData record.id
      = .ok (some data, []) := rfl
  have hwritten : ¬(tabular {}).UnwrittenSource record none := not_unwrittenSource_of_absent rfl
  have hmain := encodeRow_columnFilter (tabular {}) {} record {} hrow (by decide) "c"
    fun w v => w.same v = true
  rcases hmain with ⟨hunwritten, -⟩ | ⟨encoded, hencoded, -, hfound⟩
  · exact absurd hunwritten hwritten
  · refine ⟨encoded, hencoded, hfound (fun _ => Value.same_self) [("serverPurpose", .text "db")]
      "Server_Purpose" (.text "web") [("Rows", .int 2)] rfl (by decide) (by simp) trivial trivial
      ?_⟩
    decide +kernel

end Codec

end SheetRecall
