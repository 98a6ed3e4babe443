import SheetRecall.Proofs.Entries
import SheetRecall.Proofs.Results
import SheetRecall.Workbook.Decode

/-!
# Names and Values of a Worksheet

The columns of a worksheet are named one after the other, the cells of a row are converted one
after the other, and so are the rows.  Each of these gives a result exactly if every part does, and
the results stand in the order of the parts.  What keeps a part from giving one is a cell that holds
several values.

## Main statements
- `namedColumns_eq_ok_iff`, `rowData_eq_ok_iff`, `chunksFrom_eq_ok_iff`: what the results are.
- `get?_rowData`: under a name stands the value of the last column that has it.
- `holdsNothing_of_columnName`, `refuses_of_chunksFrom`: why there is no result.
-/

namespace SheetRecall.Workbook

/-! ## Cells that hold several values -/

/-- The worksheet has a cell of which it cannot be said whether it holds anything. -/
def Sheet.Refuses (sheet : Sheet) (fault : Fault) : Prop :=
  ∃ cells ∈ sheet.rows, ∃ cell ∈ cells, cell.holdsNothing = .error fault

theorem Cell.holdsNothing_of_toValue {layout blank : String} {cell : Cell} {fault : Fault}
    (h : cell.toValue layout blank = .error fault) : cell.holdsNothing = .error fault := by
  rcases except_bind_eq_error_iff.mp h with hcell | ⟨nothing, -, hvalue⟩
  · exact hcell
  · cases nothing <;> cases cell <;> cases hvalue

/-- A cell that refuses is there, since the blanks behind a short row do not. -/
theorem mem_of_holdsNothing_cellAt {cells : List Cell} {column : Nat} {fault : Fault}
    (h : (cellAt cells column).holdsNothing = .error fault) :
    ∃ cell ∈ cells, cell.holdsNothing = .error fault := by
  unfold cellAt at h
  cases hcell : cells[column]? with
  | none =>
    rw [hcell] at h
    cases h
  | some cell =>
    rw [hcell] at h
    exact ⟨cell, List.mem_of_getElem? hcell, h⟩

namespace Sheet

variable {o : Options} {sheet : Sheet}

/-! ## Names of columns -/

theorem holdsNothing_of_columnName {header : Option Row} {column : Nat} {fault : Fault}
    (h : columnName o header column = .error fault) :
    ∃ row, header = some row ∧ (cellAt row.cells column).holdsNothing = .error fault := by
  cases header with
  | none => cases h
  | some row =>
    refine ⟨row, rfl, ?_⟩
    rcases except_bind_eq_error_iff.mp h with hname | ⟨name, -, hname⟩
    · rcases except_bind_eq_error_iff.mp hname with hcell | ⟨nothing, -, htext⟩
      · exact hcell
      · cases nothing <;> cases htext
    · cases hname

/-- **The columns that are named** are those that are used, in their order. -/
theorem namedColumns_eq_ok_iff {columns : List (Nat × String)} :
    sheet.namedColumns o = .ok columns
      ↔ ∃ name : Nat → String,
        (∀ column ∈ sheet.usedColumns o,
          columnName o (sheet.header? o) column = .ok (name column))
        ∧ columns = (sheet.usedColumns o).map fun column => (column, name column) := by
  rw [namedColumns, mapM_eq_ok_iff]
  constructor
  · -- every column keeps its position and gets the name that was found for it
    rintro ⟨named, hall, rfl⟩
    have hname : ∀ column ∈ sheet.usedColumns o,
        columnName o (sheet.header? o) column = .ok (named column).2
          ∧ (named column).1 = column := by
      intro column hcolumn
      obtain ⟨name, hname, hpair⟩ := except_bind_eq_ok_iff.mp (hall column hcolumn)
      rw [← Except.ok.inj hpair]
      exact ⟨hname, rfl⟩
    refine ⟨fun column => (named column).2, fun column hcolumn => (hname column hcolumn).1, ?_⟩
    exact List.map_congr_left fun column hcolumn => Prod.ext (hname column hcolumn).2 rfl
  · rintro ⟨name, hall, rfl⟩
    refine ⟨fun column => (column, name column), fun column hcolumn => ?_, rfl⟩
    rw [hall column hcolumn]
    rfl

/-! ## Values of a row -/

/-- The value of a cell under the name of its column. -/
def field (o : Options) (row : Row) (column : Nat × String) : Except Fault (String × Value) := do
  return (column.2, ← (cellAt row.cells column.1).toValue o.dateFormat o.blankText)

/-- The values of a row are put behind what is said of every row. -/
theorem rowData_eq (columns : List (Nat × String)) (row : Row) :
    sheet.rowData o columns row
      = (columns.mapM (field o row)).map fun fields : Fields =>
          fields.foldl (fun data field => data.put field.1 field.2) (sheet.rowFrame o row) := by
  rw [rowData]
  generalize sheet.rowFrame o row = data
  induction columns generalizing data with
  | nil => rfl
  | cons column rest ih =>
    rw [List.foldlM_cons, List.mapM_cons, field]
    cases (cellAt row.cells column.1).toValue o.dateFormat o.blankText with
    | error fault => rfl
    | ok v =>
      change List.foldlM _ (data.put column.2 v) rest = _
      rw [ih]
      cases rest.mapM (field o row) <;> rfl

theorem field_eq_ok_iff {row : Row} {column : Nat × String} {entry : String × Value} :
    field o row column = .ok entry
      ↔ (cellAt row.cells column.1).toValue o.dateFormat o.blankText = .ok entry.2
        ∧ entry.1 = column.2 := by
  rw [field, except_bind_eq_ok_iff]
  constructor
  · rintro ⟨v, hv, hentry⟩
    cases hentry
    exact ⟨hv, rfl⟩
  · rintro ⟨hv, hname⟩
    exact ⟨entry.2, hv, congrArg Except.ok (Prod.ext hname.symm rfl)⟩

theorem nodup_rowFrame (row : Row) : (sheet.rowFrame o row).names.Nodup := by
  rw [rowFrame]
  cases o.sheetNames <;> cases o.rowNumbers <;> simp [Entries.names, titleColumn, numberColumn]

/-- **The values of a row**: what is said of every row, and one value for each column, under its
name. -/
theorem rowData_eq_ok_iff {columns : List (Nat × String)} {row : Row} {data : Fields} :
    sheet.rowData o columns row = .ok data
      ↔ ∃ value : Nat → Value,
        (∀ column ∈ columns,
          (cellAt row.cells column.1).toValue o.dateFormat o.blankText = .ok (value column.1))
        ∧ data = Entries.ofPairs
          (sheet.rowFrame o row ++ columns.map fun column => (column.2, value column.1)) := by
  -- the frame comes first, and putting the fields behind it is one list of pairs
  have hframe (fields : Fields) :
      fields.foldl (fun (data : Fields) field => data.put field.1 field.2) (sheet.rowFrame o row)
        = Entries.ofPairs (sheet.rowFrame o row ++ fields) := by
    rw [Entries.ofPairs, List.foldl_append]
    exact congrArg (fields.foldl _) (Entries.ofPairs_eq_self (nodup_rowFrame row)).symm
  rw [rowData_eq]
  constructor
  · intro h
    cases hfields : columns.mapM (field o row) with
    | error fault =>
      rw [hfields] at h
      cases h
    | ok fields =>
      rw [hfields] at h
      obtain rfl := Except.ok.inj h
      obtain ⟨entry, hall, rfl⟩ := mapM_eq_ok_iff.mp hfields
      have hvalue : ∀ column ∈ columns,
          (cellAt row.cells column.1).toValue o.dateFormat o.blankText = .ok (entry column).2 :=
        fun column hcolumn => (field_eq_ok_iff.mp (hall column hcolumn)).1
      -- the value of a column depends on its position alone
      refine ⟨fun column =>
        ((cellAt row.cells column).toValue o.dateFormat o.blankText).toOption.getD .null, ?_, ?_⟩
      · intro column hcolumn
        simp only [hvalue column hcolumn, Except.toOption, Option.getD_some]
      · refine (hframe _).trans (congrArg Entries.ofPairs (congrArg (sheet.rowFrame o row ++ ·) ?_))
        refine List.map_congr_left fun column hcolumn => Prod.ext ?_ ?_
        · exact (field_eq_ok_iff.mp (hall column hcolumn)).2
        · simp only [hvalue column hcolumn, Except.toOption, Option.getD_some]
  · rintro ⟨value, hall, rfl⟩
    have hfields : columns.mapM (field o row)
        = .ok (columns.map fun column => (column.2, value column.1)) :=
      mapM_eq_ok_iff.mpr
        ⟨_, fun column hcolumn => field_eq_ok_iff.mpr ⟨hall column hcolumn, rfl⟩, rfl⟩
    rw [hfields, ← hframe]
    rfl

/-- Under a name stands the value of the last column that has it. -/
theorem get?_rowData {columns : List (Nat × String)} {row : Row} {data : Fields}
    (h : sheet.rowData o columns row = .ok data) {before after : List (Nat × String)}
    {column : Nat} {name : String} (hcolumns : columns = before ++ (column, name) :: after)
    (hafter : ∀ later ∈ after, later.2 ≠ name) :
    ∃ v, (cellAt row.cells column).toValue o.dateFormat o.blankText = .ok v
      ∧ data.get? name = some v := by
  obtain ⟨value, hall, rfl⟩ := rowData_eq_ok_iff.mp h
  refine ⟨value column, hall (column, name) (by simp [hcolumns]), ?_⟩
  rw [hcolumns, List.map_append, List.map_cons, ← List.append_assoc]
  refine Entries.get?_ofPairs_append_cons _ _ _ fun hmem => ?_
  obtain ⟨entry, hentry, rfl⟩ := List.mem_map.mp hmem
  obtain ⟨later, hlater, rfl⟩ := List.mem_map.mp hentry
  exact hafter later hlater rfl

/-- What keeps a row from having values. -/
theorem refuses_of_rowData {columns : List (Nat × String)} {row : Row} {fault : Fault}
    (hrow : row.cells ∈ sheet.rows) (h : sheet.rowData o columns row = .error fault) :
    sheet.Refuses fault := by
  rw [rowData_eq] at h
  cases hfields : columns.mapM (field o row) with
  | ok fields =>
    rw [hfields] at h
    cases h
  | error other =>
    rw [hfields] at h
    obtain rfl := Except.error.inj h
    obtain ⟨column, -, hfield⟩ := exists_of_mapM_eq_error hfields
    rcases except_bind_eq_error_iff.mp hfield with hcell | ⟨v, -, hpure⟩
    · exact ⟨row.cells, hrow, mem_of_holdsNothing_cellAt (Cell.holdsNothing_of_toValue hcell)⟩
    · cases hpure

/-! ## Chunks of a worksheet -/

/-- The chunk of a row. -/
def chunk (o : Options) (sheet : Sheet) (columns : List (Nat × String)) (entry : Row × Nat) :
    Except Fault Chunk := do
  return ⟨entry.2, sheet.title, entry.1.number, ← sheet.rowData o columns entry.1⟩

theorem chunksFrom_eq_mapM (columns : List (Nat × String)) (first : Nat) (rows : List Row) :
    chunksFrom o sheet columns first rows = (rows.zipIdx first).mapM (sheet.chunk o columns) := by
  induction rows generalizing first with
  | nil => rfl
  | cons row rest ih =>
    rw [chunksFrom, List.zipIdx_cons, List.mapM_cons, ih, chunk]
    cases sheet.rowData o columns row <;> rfl

/-- **The chunks of a worksheet**: one for each row, numbered in their order. -/
theorem chunksFrom_eq_ok_iff {columns : List (Nat × String)} {first : Nat} {rows : List Row}
    {chunks : List Chunk} :
    chunksFrom o sheet columns first rows = .ok chunks
      ↔ ∃ data : Row → Fields, (∀ row ∈ rows, sheet.rowData o columns row = .ok (data row))
        ∧ chunks = (rows.zipIdx first).map fun entry =>
            ⟨entry.2, sheet.title, entry.1.number, data entry.1⟩ := by
  have hrow : ∀ {row : Row}, row ∈ rows ↔ ∃ n, (row, n) ∈ rows.zipIdx first := by
    intro row
    conv_lhs => rw [← List.zipIdx_map_fst first rows, List.mem_map]
    simp
  have : Inhabited Chunk := ⟨⟨first, sheet.title, 0, []⟩⟩
  rw [chunksFrom_eq_mapM, mapM_eq_ok_iff]
  constructor
  · -- what is made of a row is its number and its data, so the data can be told by the row alone
    rintro ⟨made, hall, rfl⟩
    have hdata : ∀ entry ∈ rows.zipIdx first, ∃ data,
        sheet.rowData o columns entry.1 = .ok data
          ∧ made entry = ⟨entry.2, sheet.title, entry.1.number, data⟩ := by
      intro entry hentry
      obtain ⟨data, hdata, hmade⟩ := except_bind_eq_ok_iff.mp (hall entry hentry)
      exact ⟨data, hdata, (Except.ok.inj hmade).symm⟩
    refine ⟨fun row => (sheet.rowData o columns row).toOption.getD [], ?_, ?_⟩
    · intro row hmem
      obtain ⟨n, hn⟩ := hrow.mp hmem
      obtain ⟨data, hdata, -⟩ := hdata (row, n) hn
      simp only [hdata, Except.toOption, Option.getD_some]
    · refine List.map_congr_left fun entry hentry => ?_
      obtain ⟨data, hdata, hmade⟩ := hdata entry hentry
      simp only [hmade, hdata, Except.toOption, Option.getD_some]
  · rintro ⟨data, hall, rfl⟩
    refine ⟨_, fun entry hentry => ?_, rfl⟩
    rw [chunk, hall entry.1 (hrow.mpr ⟨entry.2, hentry⟩)]
    rfl

/-- What keeps a worksheet from having chunks. -/
theorem refuses_of_chunksFrom {columns : List (Nat × String)} {first : Nat} {rows : List Row}
    {fault : Fault} (hrows : ∀ row ∈ rows, row.cells ∈ sheet.rows)
    (h : chunksFrom o sheet columns first rows = .error fault) : sheet.Refuses fault := by
  rw [chunksFrom_eq_mapM] at h
  obtain ⟨entry, hentry, hchunk⟩ := exists_of_mapM_eq_error h
  rcases except_bind_eq_error_iff.mp hchunk with hrow | ⟨data, -, hpure⟩
  · exact refuses_of_rowData (hrows _ (List.fst_mem_of_mem_zipIdx hentry)) hrow
  · cases hpure

end Sheet

end SheetRecall.Workbook
