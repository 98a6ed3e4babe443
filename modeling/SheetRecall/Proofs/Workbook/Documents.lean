import SheetRecall.Proofs.Document.Columns
import SheetRecall.Proofs.Document.Reload
import SheetRecall.Proofs.Workbook.Coverage

/-!
# Documents of Rows

A row travels to its document as JSON in the payload of a record.  What its cells hold comes through
unchanged, with its kind, if the cells hold single values that JSON tells apart: the columns only
get their stored names, and of two columns that get the same one the later one stands.

## Layers
- A cell that can be stored is converted to a value that JSON keeps.
- So a row of such cells has values that JSON keeps.
- The record of such a row has a document with the row's columns and its place.

## Main statements
- `kept_of_mem_decode`: the values of a workbook that can be stored.
- `encode_toRecord`: the document of a row.
-/

namespace SheetRecall.Workbook

open SheetRecall.Decimal

/-! ## Values that JSON keeps -/

/-- A scalar that is read back from its JSON. -/
structure Kept (v : Value) : Prop where
  scalars : v.Scalars (Json.Readable .lenient)
  wellKeyed : v.WellKeyed
  flat : v.depth = 0

/-- The cell holds nothing, or one value that is read back from its JSON: a boolean, a text, an
integer that is not too long, or a double that its digits tell.  Dates and times become texts. -/
def Cell.Storable : Cell → Prop
  | value (.list _) | value (.map _) => False
  | value v => isMissing v = true ∨ Json.Readable .lenient v
  | _ => True

theorem kept_text (s : String) : Kept (.text s) := ⟨trivial, trivial, rfl⟩

/-- It can be said of a cell that can be stored whether it holds anything. -/
theorem Cell.holdsNothing_of_storable {cell : Cell} (h : cell.Storable) :
    cell.holdsNothing = .ok cell.isBlank := by
  cases cell with
  | value v =>
    cases v with
    | list items => exact absurd h id
    | map fields => exact absurd h id
    | _ => rfl
  | _ => rfl

/-- **A cell that can be stored is converted to a value that JSON keeps.** -/
theorem Cell.exists_toValue {cell : Cell} (h : cell.Storable) (layout blank : String) :
    ∃ v, cell.toValue layout blank = .ok v ∧ Kept v := by
  unfold toValue
  rw [holdsNothing_of_storable h]
  -- a blank cell becomes the blank text, any other one the value it shows
  cases hblank : cell.isBlank with
  | true => exact ⟨_, rfl, kept_text blank⟩
  | false =>
    cases cell with
    | value v =>
      refine ⟨v, rfl, ?_⟩
      cases v with
      | list items => exact absurd h id
      | map fields => exact absurd h id
      | null => cases hblank
      | bool b => exact ⟨trivial, trivial, rfl⟩
      | text s => exact kept_text s
      | int n => exact ⟨h.resolve_left (by simp [isMissing]), trivial, rfl⟩
      | float x => exact ⟨h.resolve_left (by rw [isBlank] at hblank; simp [hblank]), trivial, rfl⟩
    | date d => exact ⟨_, rfl, kept_text _⟩
    | clock t => exact ⟨_, rfl, kept_text _⟩
    | moment d t => exact ⟨_, rfl, kept_text _⟩

/-- A short row ends in blanks, which can be stored. -/
theorem Cell.storable_cellAt {cells : List Cell} (h : ∀ cell ∈ cells, cell.Storable)
    (column : Nat) : (cellAt cells column).Storable := by
  rw [cellAt]
  cases hcell : cells[column]? with
  | none => exact .inl rfl
  | some cell => exact h cell (List.mem_of_getElem? hcell)

/-- Every cell can be stored, and so can the numbers of the rows. -/
structure Sheet.Storable (sheet : Sheet) : Prop where
  cells : ∀ cells ∈ sheet.rows, ∀ cell ∈ cells, cell.Storable
  numbers : ∀ p < sheet.rows.length, Json.Readable .lenient (.int (p + 1 : Nat))

theorem Sheet.not_refuses {sheet : Sheet} (h : sheet.Storable) (fault : Fault) :
    ¬ sheet.Refuses fault := by
  rintro ⟨cells, hcells, cell, hcell, hfault⟩
  rw [Cell.holdsNothing_of_storable (h.cells cells hcells cell hcell)] at hfault
  cases hfault

/-- A workbook whose cells can be stored is decoded. -/
theorem exists_decode {sheets : List Sheet} (h : ∀ sheet ∈ sheets, sheet.Storable) (o : Options) :
    ∃ chunks, decode o (.workbook sheets) = .ok chunks := by
  rcases chunksOf_cases o 1 sheets with ⟨chunks, hchunks, -⟩ | ⟨fault, -, sheet, hsheet, hrefuses⟩
  · exact ⟨chunks, hchunks⟩
  · exact absurd hrefuses (Sheet.not_refuses (h sheet (List.mem_of_mem_filter hsheet)) fault)

/-! ## Values of a row -/

/-- What is said of every row is kept. -/
theorem Sheet.kept_rowFrame {sheet : Sheet} (h : sheet.Storable) (o : Options) {row : Row}
    (hrow : row ∈ numbered 0 sheet.rows) : ∀ field ∈ sheet.rowFrame o row, Kept field.2 := by
  have hlt : row.position < sheet.rows.length :=
    (List.getElem?_eq_some_iff.mp (mem_numbered_iff.mp hrow)).1
  have hnumber : Kept (.int row.number) := ⟨h.numbers row.position hlt, trivial, rfl⟩
  have htitle := kept_text sheet.title
  rw [rowFrame]
  cases o.sheetNames <;> cases o.rowNumbers <;> simp [hnumber, htitle]

/-- Each value of a row has a name of its own. -/
theorem nodup_names_of_mem_decode {o : Options} {sheets : List Sheet} {chunks : List Chunk}
    (h : decode o (.workbook sheets) = .ok chunks) {c : Chunk} (hc : c ∈ chunks) :
    c.data.names.Nodup := by
  obtain ⟨sheet, -, columns, -, row, -, -, -, hdata⟩ := exists_row_of_mem_decode h hc
  obtain ⟨value, -, heq⟩ := Sheet.rowData_eq_ok_iff.mp hdata
  rw [heq]
  exact Entries.nodup_names_ofPairs _

/-- **The values of a workbook that can be stored are kept.** -/
theorem kept_of_mem_decode {o : Options} {sheets : List Sheet}
    (hsheets : ∀ sheet ∈ sheets, sheet.Storable) {chunks : List Chunk}
    (h : decode o (.workbook sheets) = .ok chunks) {c : Chunk} (hc : c ∈ chunks) :
    ∀ field ∈ c.data, Kept field.2 := by
  -- the data comes from one row of one sheet: the frame and one cell for each column
  obtain ⟨sheet, hsheet, columns, -, row, hrow, -, -, hdata⟩ := exists_row_of_mem_decode h hc
  obtain ⟨value, hvalue, heq⟩ := Sheet.rowData_eq_ok_iff.mp hdata
  have hmem := (Sheet.mem_dataRows_iff.mp hrow).1
  have hstorable := hsheets sheet hsheet
  rw [heq]
  intro field hfield
  rcases List.mem_append.mp (Entries.mem_of_mem_ofPairs hfield) with hframe | hcell
  · exact Sheet.kept_rowFrame hstorable o hmem field hframe
  · obtain ⟨column, hcolumn, rfl⟩ := List.mem_map.mp hcell
    have hcell := Cell.storable_cellAt
      (hstorable.cells row.cells (Sheet.cells_mem_of_mem_numbered hmem)) column.1
    obtain ⟨v, hv, hkept⟩ := Cell.exists_toValue hcell o.dateFormat o.blankText
    rw [Except.ok.inj ((hvalue column hcolumn).symm.trans hv)]
    exact hkept

/-! ## Documents -/

/-- The document of a row in a file: where the row comes from, and its columns under their stored
names, of which the later one of two that are alike stands. -/
structure Chunk.StoredAs (c : Chunk) (fileId : String) (document : Fields) : Prop where
  id : document.get? Part.id = some (.text (Ident.encode (c.recordId fileId)))
  file : document.get? Part.file = some (.text fileId)
  source : document.get? Part.source = some (.map
    [(Legacy.worksheetNameKey, .text c.title), (Legacy.rowNumberKey, .text (toString c.rowNumber))])
  data : document.get? Part.data
    = some (.map (Entries.ofPairs (c.data.map fun field => (Column.stored field.1, field.2))))
  column : ∀ column w,
    (Entries.ofPairs (c.data.map fun field => (Column.stored field.1, field.2))).get?
      (Column.stored column) = some w ↔ LastColumn true c.data column w

/-- Fields with values that are kept are loaded from the JSON that they are written as. -/
theorem loadEntry_of_write {fields payload : Fields} {style : Json.Style} {key id : String}
    (hget : payload.get? key = some (.text (Json.write style (.map fields))))
    (hstyle : style.sortKeys = false) (hnames : fields.names.Nodup)
    (hkept : ∀ field ∈ fields, Kept field.2) :
    (Codec.tabular {}).loadEntry payload key id = .ok (some fields, []) := by
  -- what is kept nests nothing and reads back, so a row of it is read as it was written
  have hscalars : (Value.map fields).Scalars (Json.Readable (Codec.tabular {}).manner) :=
    (Value.scalarsFields_iff _ fields).mpr fun field hfield => (hkept field hfield).scalars
  have hkeyed : (Value.map fields).WellKeyed :=
    ⟨hnames, (Value.wellKeyedFields_iff fields).mpr fun field hfield =>
      (hkept field hfield).wellKeyed⟩
  have hdepth : (Value.map fields).depth ≤ Json.Manner.lenient.maxDepth := by
    have hflat := Value.depth_map_le_succ fun field hfield => (hkept field hfield).flat.le
    exact hflat.trans (by decide)
  obtain ⟨again, hagain, hload⟩ := Codec.loadEntry_of_written hget hscalars hkeyed id
  rw [Json.styled, hstyle] at hagain
  obtain rfl := Value.map.inj hagain
  rw [hload]
  exact if_pos hdepth

/-- The record of a row belongs to the file that the row is imported from. -/
theorem fileId_toRecord (c : Chunk) {fileId : String} (hfile : fileId ≠ "") (vector : List Float)
    (style : Json.Style) : (c.toRecord fileId vector [] style).fileId = fileId := by
  have htag : (c.toRecord fileId vector [] style).tag? Record.fileIdTag = some fileId := rfl
  have hempty : fileId.isEmpty = false := by simpa using hfile
  rw [Record.fileId, htag]
  simp only [hempty, Bool.false_eq_true, if_false]

/-- **The document of a row** whose values are kept. -/
theorem Chunk.encode_toRecord {c : Chunk} (hnames : c.data.names.Nodup)
    (hkept : ∀ field ∈ c.data, Kept field.2) {fileId : String} (hfile : fileId ≠ "")
    (vector : List Float) {style : Json.Style} (hstyle : style.sortKeys = false) :
    ∃ encoded, (Codec.tabular {}).encode (c.toRecord fileId vector [] style) = .ok encoded
      ∧ c.StoredAs fileId encoded.document := by
  -- the provenance is two texts, whatever the row is
  have hsourceNames : Entries.names c.source = [Legacy.worksheetNameKey, Legacy.rowNumberKey] := rfl
  have hsourceKept : ∀ field ∈ c.source, Kept field.2 := by
    intro field hfield
    rcases List.mem_pair.mp hfield with rfl | rfl
    · exact kept_text _
    · exact kept_text _
  have hdata : (Codec.tabular {}).loadEntry (c.toRecord fileId vector [] style).payload
      Payload.rowData (c.toRecord fileId vector [] style).id = .ok (some c.data, []) :=
    loadEntry_of_write rfl hstyle hnames hkept
  have hsource : (Codec.tabular {}).loadEntry (c.toRecord fileId vector [] style).payload
      Payload.rowSource (c.toRecord fileId vector [] style).id = .ok (some c.source, []) :=
    loadEntry_of_write rfl hstyle (by rw [hsourceNames]; decide) hsourceKept
  have hwritable : ∀ field ∈ c.source,
      Value.Writable (Codec.tabular {}).manner.maxDepth field.2 := by
    intro field hfield
    rcases List.mem_pair.mp hfield with rfl | rfl
    · exact Value.writable_text _ _
    · exact Value.writable_text _ _
  obtain ⟨notices, hencode⟩ := Codec.encode_of_loaded rfl hdata hsource hwritable
  refine ⟨_, hencode, ?id, ?file, ?source, ?data, fun column w => ?_⟩
  case id => rfl
  case file =>
    exact congrArg (fun file => some (Value.text file)) (fileId_toRecord c hfile vector style)
  case source => rfl
  case data => rfl
  · exact Codec.get?_storedColumns {} hnames column w

end SheetRecall.Workbook
