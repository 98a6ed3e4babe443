import SheetRecall.Proofs.Column.Clean
import SheetRecall.Proofs.Decimal.Digits
import SheetRecall.Proofs.Workbook.Coverage

/-!
# Names of Columns and the Cells Under Them

Every column that is used gets a name, and the values of a row are put under the names.  Names come
from the header, and nothing keeps two columns from having one header, or a column from having the
name of what is said of every row.  Of columns with one name only the last one keeps its cells, so a
row keeps all of its cells exactly if the names are apart.

## Layers
- The names that columns get on their own are apart, and no clean header names a part of the frame.
- A row has one entry for each column and each part of its frame exactly if the names are apart.

## Main statements
- `namesApart_of_unheaded`: without a header the names are apart.
- `rowData_length_eq_iff`: when a row keeps all of its cells.
- `chunk_cells`: what is left of the cells of a row in a chunk.
-/

namespace SheetRecall.Workbook.Sheet

open SheetRecall.Text SheetRecall.Decimal

variable {o : Options} {sheet : Sheet}

/-- No two columns have one name, and none has a name of the frame. -/
def NamesApart (o : Options) (columns : List (Nat × String)) : Prop :=
  (columns.map (·.2)).Nodup
    ∧ (o.sheetNames = true → titleColumn ∉ columns.map (·.2))
    ∧ (o.rowNumbers = true → numberColumn ∉ columns.map (·.2))

/-! ## Names of columns without a header -/

/-- The name of a column that has none of its own. -/
def ownName (o : Options) (column : Nat) : String := o.unnamed ++ toString (column + 1)

theorem ownName_inj {column other : Nat} : ownName o column = ownName o other ↔ column = other := by
  constructor
  · intro h
    have hdigits : toString (column + 1) = toString (other + 1) := (String.append_right_inj _).mp h
    rw [toString_eq_ofList, toString_eq_ofList, String.ofList_inj, natDigits_inj] at hdigits
    exact Nat.succ.inj hdigits
  · rintro rfl
    rfl

/-- A name that a column gets on its own ends with a digit. -/
theorem isDigit_of_getLast?_ownName {column : Nat} {c : Char}
    (h : (ownName o column).toList.getLast? = some c) : c.isDigit = true := by
  rw [ownName, String.toList_append, toString_eq_ofList, String.toList_ofList,
    List.getLast?_append_of_ne_nil _ (natDigits_ne_nil _)] at h
  exact isDigit_of_mem_natDigits (List.mem_of_getLast? h)

theorem ownName_ne_titleColumn (column : Nat) : ownName o column ≠ titleColumn := by
  intro h
  have hlast : (ownName o column).toList.getLast? = some 't' := by
    rw [h]
    decide
  exact absurd (isDigit_of_getLast?_ownName hlast) (by decide)

theorem ownName_ne_numberColumn (column : Nat) : ownName o column ≠ numberColumn := by
  intro h
  have hlast : (ownName o column).toList.getLast? = some 'r' := by
    rw [h]
    decide
  exact absurd (isDigit_of_getLast?_ownName hlast) (by decide)

/-- **Without a header the names are apart.** -/
theorem namesApart_of_unheaded {columns : List (Nat × String)} (hheader : sheet.header? o = none)
    (h : sheet.namedColumns o = .ok columns) : NamesApart o columns := by
  obtain ⟨name, hname, rfl⟩ := namedColumns_eq_ok_iff.mp h
  -- without a header every column has its own name, which its position settles
  have hown : ((sheet.usedColumns o).map fun column => (column, name column)).map (·.2)
      = (sheet.usedColumns o).map (ownName o) := by
    rw [List.map_map]
    refine List.map_congr_left fun column hcolumn => ?_
    have hcolumnName := hname column hcolumn
    rw [hheader] at hcolumnName
    exact (Except.ok.inj hcolumnName).symm
  rw [NamesApart, hown]
  refine ⟨?_, fun _ hmem => ?_, fun _ hmem => ?_⟩
  · exact (pairwise_usedColumns.imp Nat.ne_of_lt).map _ fun _ _ hne heq => hne (ownName_inj.mp heq)
  · obtain ⟨column, -, heq⟩ := List.mem_map.mp hmem
    exact ownName_ne_titleColumn column heq
  · obtain ⟨column, -, heq⟩ := List.mem_map.mp hmem
    exact ownName_ne_numberColumn column heq

/-! ## Clean headers -/

/-- A clean header does not begin with a low line. -/
theorem head_clean_ne (header : String) : (Column.clean header).toList.head? ≠ some '_' :=
  (Column.isClean_clean header).head_ne

/-- A name comes from the header, or it is the column's own. -/
theorem columnName_cases (hclean : o.cleanHeaders = true) {header : Option Row} {column : Nat}
    {name : String} (h : columnName o header column = .ok name) :
    name = ownName o column ∨ ∃ text, name = Column.clean text := by
  -- a header of blanks names nothing, and leaves the column its own name
  have hown : ∀ text : String,
      (if (trim text).isEmpty then ownName o column else text) = name →
        name = ownName o column ∨ name = text := by
    intro text hname
    split at hname
    case isTrue => exact .inl hname.symm
    case isFalse => exact .inr hname.symm
  cases header with
  | none => exact (hown "" (Except.ok.inj h)).imp_right fun hname => ⟨"", hname⟩
  | some row =>
    obtain ⟨text, htext, hname⟩ := except_bind_eq_ok_iff.mp h
    refine (hown text (Except.ok.inj hname)).imp_right fun heq => ?_
    obtain ⟨nothing, -, hheader⟩ := except_bind_eq_ok_iff.mp htext
    cases nothing with
    | true =>
      have hempty : "" = text := Except.ok.inj hheader
      exact ⟨"", heq.trans hempty.symm⟩
    | false =>
      rw [hclean] at hheader
      have htext : Column.clean (cellAt row.cells column).text = text := Except.ok.inj hheader
      exact ⟨_, heq.trans htext.symm⟩

/-- **No column with a clean header has a name of the frame.** -/
theorem columnName_ne_frame (hclean : o.cleanHeaders = true) {header : Option Row} {column : Nat}
    {name : String} (h : columnName o header column = .ok name) :
    name ≠ titleColumn ∧ name ≠ numberColumn := by
  rcases columnName_cases hclean h with rfl | ⟨text, rfl⟩
  · exact ⟨ownName_ne_titleColumn column, ownName_ne_numberColumn column⟩
  · have hhead := head_clean_ne text
    constructor
    · intro heq
      rw [heq] at hhead
      exact absurd hhead (by decide)
    · intro heq
      rw [heq] at hhead
      exact absurd hhead (by decide)

/-! ## The cells of a row -/

theorem mem_names_rowFrame_iff {row : Row} {name : String} :
    name ∈ (sheet.rowFrame o row).names
      ↔ o.sheetNames = true ∧ name = titleColumn ∨ o.rowNumbers = true ∧ name = numberColumn := by
  rw [rowFrame]
  cases o.sheetNames <;> cases o.rowNumbers <;> simp [Entries.names]

theorem nodup_names_iff (row : Row) (columns : List (Nat × String)) (value : Nat → Value) :
    (Entries.names (sheet.rowFrame o row
        ++ columns.map fun column => (column.2, value column.1))).Nodup
      ↔ NamesApart o columns := by
  have hcolumns : Entries.names (columns.map fun column => (column.2, value column.1))
      = columns.map (·.2) := by
    rw [Entries.names, List.map_map]
    rfl
  -- the names of the frame differ, so a repeated name is a column's
  have happend : Entries.names (sheet.rowFrame o row
        ++ columns.map fun column => (column.2, value column.1))
      = (sheet.rowFrame o row).names ++ columns.map (·.2) := by
    rw [← hcolumns]
    exact List.map_append
  have hdisjoint : (∀ a ∈ (sheet.rowFrame o row).names, ∀ b ∈ columns.map (·.2), a ≠ b)
      ↔ (o.sheetNames = true → titleColumn ∉ columns.map (·.2))
        ∧ (o.rowNumbers = true → numberColumn ∉ columns.map (·.2)) := by
    constructor
    · intro h
      exact ⟨fun hsheet hmem => h _ (mem_names_rowFrame_iff.mpr (.inl ⟨hsheet, rfl⟩)) _ hmem rfl,
        fun hnumber hmem => h _ (mem_names_rowFrame_iff.mpr (.inr ⟨hnumber, rfl⟩)) _ hmem rfl⟩
    · rintro ⟨htitle, hnumber⟩ a ha b hb rfl
      rcases mem_names_rowFrame_iff.mp ha with ⟨hshown, rfl⟩ | ⟨hshown, rfl⟩
      · exact htitle hshown hb
      · exact hnumber hshown hb
  rw [happend, List.nodup_append, hdisjoint, NamesApart]
  exact and_iff_right (nodup_rowFrame row)

/-- **A row keeps all of its cells** exactly if the names of the columns are apart. -/
theorem rowData_length_eq_iff {columns : List (Nat × String)} {row : Row} {data : Fields}
    (h : sheet.rowData o columns row = .ok data) :
    data.length = (sheet.rowFrame o row).length + columns.length ↔ NamesApart o columns := by
  obtain ⟨value, -, rfl⟩ := rowData_eq_ok_iff.mp h
  have hapart : (Entries.names (sheet.rowFrame o row
        ++ columns.map fun column => (column.2, value column.1))).Nodup
      ↔ NamesApart o columns := nodup_names_iff row columns value
  rw [← hapart, ← Entries.length_ofPairs_eq_iff, List.length_append, List.length_map]

/-- What naming the columns of a worksheet does to the cells of its row at a position. -/
structure CellsKept (o : Options) (sheet : Sheet) (columns : List (Nat × String)) (p : Nat)
    (value : Nat → Value) (data : Fields) : Prop where
  /-- Every used column has a name. -/
  used : columns.map (·.1) = sheet.usedColumns o
  converted : ∀ column ∈ columns,
    (sheet.cell p column.1).toValue o.dateFormat o.blankText = .ok (value column.1)
  /-- Each column and each part of the frame has its own entry exactly if the names are apart. -/
  counted : data.length = (sheet.rowFrame o ⟨p, []⟩).length + columns.length ↔ NamesApart o columns
  kept : NamesApart o columns →
    data = sheet.rowFrame o ⟨p, []⟩ ++ columns.map fun column => (column.2, value column.1)
  /-- Of columns with one name the last one keeps its cell. -/
  last : ∀ before column name after, columns = before ++ (column, name) :: after →
    (∀ later ∈ after, later.2 ≠ name) → data.get? name = some (value column)
  unheaded : sheet.header? o = none → NamesApart o columns
  clean : o.cleanHeaders = true → ∀ column ∈ columns,
    column.2 ≠ titleColumn ∧ column.2 ≠ numberColumn

/-- **What is left of the cells of a row in its chunk.** -/
theorem chunk_cells {first : Nat} {chunks : List Chunk}
    (h : sheetChunks o first sheet = .ok chunks) {c : Chunk} (hc : c ∈ chunks) :
    ∃ columns, sheet.namedColumns o = .ok columns ∧ ∃ (p : Nat) (value : Nat → Value),
      c.rowNumber = p + 1 ∧ CellsKept o sheet columns p value c.data := by
  -- the chunk is one row, its columns and the value of each
  obtain ⟨columns, hcolumns, row, hrow, -, hnumber, hdata⟩ := exists_row_of_mem_sheetChunks h hc
  obtain ⟨value, hvalue, heq⟩ := rowData_eq_ok_iff.mp hdata
  obtain ⟨name, hname, hnamed⟩ := namedColumns_eq_ok_iff.mp hcolumns
  have hmem := (mem_dataRows_iff.mp hrow).1
  have hcount := rowData_length_eq_iff hdata
  refine ⟨columns, hcolumns, row.position, value, hnumber, ?_⟩
  exact {
    used := by
      rw [hnamed, List.map_map]
      exact List.map_id _
    converted := fun column hcolumn => by
      rw [← cellAt_eq_cell hmem]
      exact hvalue column hcolumn
    counted := hcount
    kept := fun hapart => by
      rw [heq]
      exact Entries.ofPairs_eq_self ((nodup_names_iff row columns value).mpr hapart)
    last := fun before column name after hsplit hafter => by
      obtain ⟨v, hv, hget⟩ := get?_rowData hdata hsplit hafter
      have hcolumn : (column, name) ∈ columns := by simp [hsplit]
      rw [hget, ← Except.ok.inj (hv.symm.trans (hvalue _ hcolumn))]
    unheaded := fun hheader => namesApart_of_unheaded hheader hcolumns
    clean := fun hclean column hcolumn => by
      rw [hnamed] at hcolumn
      obtain ⟨used, hused, rfl⟩ := List.mem_map.mp hcolumn
      exact columnName_ne_frame hclean (hname used hused) }

/-- A worksheet with one column that is named and one that is not. -/
def servers : Sheet where
  title := "Servers"
  rows := [[.value (.text "Name"), .value .null], [.value (.text "web"), .value (.int 4)]]

/-- The chunk of its only row with data. -/
def serversRow : Chunk :=
  ⟨1, "Servers", 2, [("_worksheet", .text "Servers"), ("_rowNumber", .int 2), ("Name", .text "web"),
    ("Column2", .int 4)]⟩

theorem chunk_cells_servers :
    sheetChunks {} 1 servers = .ok [serversRow] ∧ ∃ columns, servers.namedColumns {} = .ok columns
      ∧ ∃ (p : Nat) (value : Nat → Value), serversRow.rowNumber = p + 1
        ∧ CellsKept {} servers columns p value serversRow.data := by
  have hchunks : sheetChunks {} 1 servers = .ok [serversRow] := by rfl
  exact ⟨hchunks, chunk_cells hchunks List.mem_cons_self⟩

/-- A worksheet in which two columns have one header. -/
def namesakes : Sheet where
  title := "S"
  rows := [[.value (.text "Name"), .value (.text "Name")],
    [.value (.text "a"), .value (.text "b")]]

/-- The first of two columns with one header loses its cells. -/
theorem namesakes_lose_cells :
    namesakes.usedColumns {} = [0, 1] ∧ namesakes.namedColumns {} = .ok [(0, "Name"), (1, "Name")]
      ∧ ∃ c, decode {} (.workbook [namesakes]) = .ok [c] ∧ c.data.length = 3
        ∧ ∀ name, c.data.get? name ≠ some (.text "a") := by
  refine ⟨by rfl, by rfl, ⟨1, "S", 2, [("_worksheet", .text "S"), ("_rowNumber", .int 2),
    ("Name", .text "b")]⟩, by rfl, by rfl, fun name hname => ?_⟩
  -- no entry holds the cell
  have hmem := Entries.mem_of_get?_eq_some hname
  simp at hmem

end SheetRecall.Workbook.Sheet
