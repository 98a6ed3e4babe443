import SheetRecall.Proofs.Workbook.Cells
import SheetRecall.Proofs.Workbook.Rows

/-!
# Every Row of a Workbook Becomes a Chunk

A workbook is decoded sheet by sheet and row by row.  The chunks are numbered through the whole
workbook, and each stands for one row with data: it has the number of the row in its sheet, and
under the names of the columns the values of the cells at that place.

## Layers
- A worksheet: its rows with data, one chunk for each (`Covers`).
- The worksheets that are read, one after the other.

## Main statements
- `decode_covers`: what a workbook is decoded to, or which cell is in the way.
-/

namespace SheetRecall.Workbook

/-- The chunks of a worksheet stand for its rows with data, in order, and say what their cells
hold. -/
structure Covers (o : Options) (sheet : Sheet) (chunks : List Chunk) : Prop where
  title : ∀ c ∈ chunks, c.title = sheet.title
  ascending : (chunks.map (·.rowNumber)).Pairwise (· < ·)
  rows : ∀ n : Int, n ∈ chunks.map (·.rowNumber) ↔ ∃ p : Nat, n = p + 1 ∧ sheet.HasData o p
  cells : ∃ columns, sheet.namedColumns o = .ok columns
    ∧ (∀ column, sheet.Used o column ↔ ∃ name, (column, name) ∈ columns)
    ∧ ∀ c ∈ chunks, ∀ p : Nat, c.rowNumber = p + 1 → ∀ column name, (column, name) ∈ columns →
      (∀ later, (later, name) ∈ columns → later ≤ column) →
      ∃ v, (sheet.cell p column).toValue o.dateFormat o.blankText = .ok v
        ∧ c.data.get? name = some v

namespace Sheet

variable {o : Options} {sheet : Sheet}

/-! ## A worksheet -/

theorem cells_mem_of_mem_numbered {row : Row} (h : row ∈ numbered 0 sheet.rows) :
    row.cells ∈ sheet.rows :=
  List.mem_of_getElem? (mem_numbered_iff.mp h)

theorem mem_dataRows_iff {row : Row} :
    row ∈ sheet.dataRows o ↔ row ∈ numbered 0 sheet.rows ∧ HasData o sheet row.position := by
  rw [dataRows_eq_filter, List.mem_filter, decide_eq_true_eq]

theorem mem_numbered_of_header? {row : Row} (h : sheet.header? o = some row) :
    row ∈ numbered 0 sheet.rows := by
  unfold header? at h
  split at h
  case isTrue =>
    have hused := List.mem_of_getElem? h
    rw [usedRows_eq_filter] at hused
    exact (List.mem_filter.mp hused).1
  case isFalse => cases h

/-- What keeps the columns from having names. -/
theorem refuses_of_namedColumns {fault : Fault} (h : sheet.namedColumns o = .error fault) :
    sheet.Refuses fault := by
  obtain ⟨column, -, hnamed⟩ := exists_of_mapM_eq_error h
  rcases except_bind_eq_error_iff.mp hnamed with hname | ⟨name, -, hpure⟩
  · obtain ⟨row, hheader, hcell⟩ := holdsNothing_of_columnName hname
    exact ⟨row.cells, cells_mem_of_mem_numbered (mem_numbered_of_header? hheader),
      mem_of_holdsNothing_cellAt hcell⟩
  · cases hpure

/-- The last column with a name stands behind all others that have it. -/
theorem exists_append_of_last {columns : List (Nat × String)}
    (hcolumns : (columns.map (·.1)).Pairwise (· < ·)) {column : Nat} {name : String}
    (hmem : (column, name) ∈ columns)
    (hlast : ∀ later, (later, name) ∈ columns → later ≤ column) :
    ∃ before after, columns = before ++ (column, name) :: after
      ∧ ∀ later ∈ after, later.2 ≠ name := by
  obtain ⟨before, after, rfl⟩ := List.append_of_mem hmem
  refine ⟨before, after, rfl, ?_⟩
  rintro ⟨later, other⟩ hlater rfl
  rw [List.map_append, List.map_cons, List.pairwise_append, List.pairwise_cons] at hcolumns
  have hlt := hcolumns.2.1.1 later (List.mem_map.mpr ⟨_, hlater, rfl⟩)
  have hle := hlast later (by simp [hlater])
  exact absurd hlt (Nat.not_lt.mpr hle)

/-- **The chunks of a worksheet cover its rows.** -/
theorem covers_of_chunksFrom {columns : List (Nat × String)} {first : Nat} {chunks : List Chunk}
    (hcolumns : sheet.namedColumns o = .ok columns)
    (h : chunksFrom o sheet columns first (sheet.dataRows o) = .ok chunks) :
    Covers o sheet chunks ∧ chunks.map (·.number) = List.range' first chunks.length := by
  obtain ⟨data, hdata, rfl⟩ := chunksFrom_eq_ok_iff.mp h
  obtain ⟨name, -, hnamed⟩ := namedColumns_eq_ok_iff.mp hcolumns
  -- the columns that are named are the used ones, in their order
  have hfirsts : columns.map (·.1) = sheet.usedColumns o := by
    rw [hnamed, List.map_map]
    exact List.map_id _
  -- the rows that become chunks are those with data, so their numbers are read off the sheet
  have hnumbers : ((sheet.dataRows o).zipIdx first).map (fun entry => (entry.1.number : Int))
      = ((List.range sheet.rows.length).filter (HasData o sheet ·)).map
          fun p : Nat => (p : Int) + 1 := by
    rw [← map_position_dataRows, List.map_map]
    conv_rhs => rw [← List.zipIdx_map_fst first (sheet.dataRows o), List.map_map]
    rfl
  refine ⟨⟨?title, ?ascending, ?rows, columns, hcolumns, ?used, ?cells⟩, ?numbers⟩
  case title =>
    intro c hc
    obtain ⟨entry, -, rfl⟩ := List.mem_map.mp hc
    rfl
  case ascending =>
    -- positions ascend, and numbers are one more
    rw [List.map_map]
    change (((sheet.dataRows o).zipIdx first).map fun entry => (entry.1.number : Int)).Pairwise _
    rw [hnumbers, List.pairwise_map]
    exact (List.pairwise_lt_range.filter _).imp fun hlt => by omega
  case rows =>
    intro n
    rw [List.map_map]
    change n ∈ ((sheet.dataRows o).zipIdx first).map (fun entry => (entry.1.number : Int)) ↔ _
    rw [hnumbers, List.mem_map]
    constructor
    · rintro ⟨p, hp, rfl⟩
      rw [List.mem_filter, decide_eq_true_eq] at hp
      exact ⟨p, rfl, hp.2⟩
    · rintro ⟨p, rfl, hp⟩
      refine ⟨p, ?_, rfl⟩
      rw [List.mem_filter, List.mem_range, decide_eq_true_eq]
      exact ⟨hp.1.1.1, hp⟩
  case used =>
    intro column
    rw [← mem_usedColumns_iff, ← hfirsts, List.mem_map]
    simp
  case cells =>
    -- the last column of a name settles its cell, for the row at the chunk's own position
    intro c hc p hp column columnName hmem hlast
    obtain ⟨entry, hentry, rfl⟩ := List.mem_map.mp hc
    have hrow := List.fst_mem_of_mem_zipIdx hentry
    have hposition : entry.1.position = p := by
      have hcast : ((entry.1.position + 1 : Nat) : Int) = p + 1 := hp
      omega
    obtain ⟨before, after, hsplit, hafter⟩ :=
      exists_append_of_last (hfirsts ▸ pairwise_usedColumns) hmem hlast
    obtain ⟨v, hv, hget⟩ := get?_rowData (hdata _ hrow) hsplit hafter
    refine ⟨v, ?_, hget⟩
    rwa [cellAt_eq_cell (mem_dataRows_iff.mp hrow).1, hposition] at hv
  case numbers =>
    rw [List.map_map, List.length_map, List.length_zipIdx]
    exact List.zipIdx_map_snd first (sheet.dataRows o)

/-- A worksheet has chunks that cover its rows, unless a cell is in the way. -/
theorem sheetChunks_cases (first : Nat) (hread : isRead o sheet.title = true) :
    (∃ chunks, sheetChunks o first sheet = .ok chunks ∧ Covers o sheet chunks
        ∧ chunks.map (·.number) = List.range' first chunks.length)
      ∨ ∃ fault, sheetChunks o first sheet = .error fault ∧ sheet.Refuses fault := by
  -- the sheet is one of those to be read, so its columns are named and its rows are made into
  -- chunks
  have hsheet : sheetChunks o first sheet = (do
      chunksFrom o sheet (← sheet.namedColumns o) first (sheet.dataRows o)) := by
    simp [sheetChunks, hread]
  rw [hsheet]
  cases hcolumns : sheet.namedColumns o with
  | error fault => exact .inr ⟨fault, rfl, refuses_of_namedColumns hcolumns⟩
  | ok columns =>
    change (∃ chunks, chunksFrom o sheet columns first (sheet.dataRows o) = .ok chunks ∧ _)
      ∨ ∃ fault, chunksFrom o sheet columns first (sheet.dataRows o) = .error fault ∧ _
    cases hchunks : chunksFrom o sheet columns first (sheet.dataRows o) with
    | error fault =>
      refine .inr ⟨fault, rfl, refuses_of_chunksFrom (fun row hrow => ?_) hchunks⟩
      exact cells_mem_of_mem_numbered (mem_dataRows_iff.mp hrow).1
    | ok chunks => exact .inl ⟨chunks, rfl, covers_of_chunksFrom hcolumns hchunks⟩

/-- A chunk of a worksheet is made from one of its rows with data. -/
theorem exists_row_of_mem_sheetChunks {first : Nat} {chunks : List Chunk}
    (h : sheetChunks o first sheet = .ok chunks) {c : Chunk} (hc : c ∈ chunks) :
    ∃ columns, sheet.namedColumns o = .ok columns ∧ ∃ row ∈ sheet.dataRows o,
      c.title = sheet.title ∧ c.rowNumber = row.number
        ∧ sheet.rowData o columns row = .ok c.data := by
  cases hread : isRead o sheet.title with
  | false =>
    rw [sheetChunks, hread] at h
    cases h
    cases hc
  | true =>
    rw [sheetChunks, hread] at h
    obtain ⟨columns, hcolumns, hrows⟩ := except_bind_eq_ok_iff.mp h
    obtain ⟨data, hdata, rfl⟩ := chunksFrom_eq_ok_iff.mp hrows
    obtain ⟨entry, hentry, rfl⟩ := List.mem_map.mp hc
    have hrow := List.fst_mem_of_mem_zipIdx hentry
    exact ⟨columns, hcolumns, entry.1, hrow, rfl, rfl, hdata _ hrow⟩

end Sheet

/-! ## The worksheets of a workbook -/

/-- The chunks of a worksheet come in front of those of the later ones. -/
theorem chunksOf_cons {o : Options} {first : Nat} {sheet : Sheet} {chunks : List Chunk}
    (h : sheetChunks o first sheet = .ok chunks) (rest : List Sheet) :
    chunksOf o first (sheet :: rest)
      = (chunksOf o (first + chunks.length) rest).map (chunks ++ ·) := by
  rw [chunksOf, h]
  change ((chunksOf o (first + chunks.length) rest).bind fun later => .ok (chunks ++ later)) = _
  cases chunksOf o (first + chunks.length) rest <;> rfl

/-- The chunks of worksheets cover those that are read, one part for each, and are numbered from
`first` on. -/
theorem chunksOf_cases (o : Options) (first : Nat) (sheets : List Sheet) :
    (∃ chunks, chunksOf o first sheets = .ok chunks
        ∧ chunks.map (·.number) = List.range' first chunks.length
        ∧ ∃ parts, chunks = parts.flatten
          ∧ List.Forall₂ (Covers o) (sheets.filter fun sheet => isRead o sheet.title) parts)
      ∨ ∃ fault, chunksOf o first sheets = .error fault
        ∧ ∃ sheet ∈ sheets.filter fun sheet => isRead o sheet.title, sheet.Refuses fault := by
  -- the numbers go on from sheet to sheet, so the induction is for any first number
  induction sheets generalizing first with
  | nil => exact .inl ⟨[], rfl, rfl, [], rfl, .nil⟩
  | cons sheet rest ih =>
    cases hread : isRead o sheet.title with
    | false =>
      -- a sheet that is not read adds no chunk and is not among the filtered ones
      have hnone : sheetChunks o first sheet = .ok [] := by
        rw [sheetChunks, hread]
        rfl
      have hskip : chunksOf o first (sheet :: rest) = chunksOf o first rest := by
        rw [chunksOf_cons hnone, List.length_nil, Nat.add_zero]
        cases chunksOf o first rest <;> rfl
      rw [hskip, List.filter_cons_of_neg (by simp [hread])]
      exact ih first
    | true =>
      have hkept : (sheet :: rest).filter (fun sheet => isRead o sheet.title)
          = sheet :: rest.filter fun sheet => isRead o sheet.title := by simp [hread]
      rw [hkept]
      rcases Sheet.sheetChunks_cases first hread with
        ⟨chunks, hchunks, hcovers, hnumbers⟩ | ⟨fault, hfault, hrefuses⟩
      · -- the sheet came through, and the next one begins behind its chunks
        rw [chunksOf_cons hchunks]
        rcases ih (first + chunks.length) with
          ⟨later, hlater, hlaterNumbers, parts, rfl, hparts⟩
            | ⟨fault, hfault, refusing, hmem, hrefuses⟩
        · refine .inl ⟨chunks ++ parts.flatten, by rw [hlater]; rfl, ?_, chunks :: parts, rfl,
            .cons hcovers hparts⟩
          rw [List.map_append, hnumbers, hlaterNumbers, List.length_append, List.range'_append_1]
        · exact .inr ⟨fault, by rw [hfault]; rfl, refusing, List.mem_cons_of_mem _ hmem, hrefuses⟩
      · refine .inr ⟨fault, ?_, sheet, List.mem_cons_self, hrefuses⟩
        rw [chunksOf, hfault]
        rfl

/-- What is decoded covers the worksheets that are read, one part for each. -/
theorem exists_parts_of_decode {o : Options} {sheets : List Sheet} {chunks : List Chunk}
    (h : decode o (.workbook sheets) = .ok chunks) :
    ∃ parts, chunks = parts.flatten
      ∧ List.Forall₂ (Covers o) (sheets.filter fun sheet => isRead o sheet.title) parts := by
  rcases chunksOf_cases o 1 sheets with ⟨others, hothers, -, hparts⟩ | ⟨fault, hfault, -⟩
  · obtain rfl := Except.ok.inj (h.symm.trans hothers)
    exact hparts
  · cases h.symm.trans hfault

/-- A chunk belongs to the part of some worksheet. -/
theorem exists_covers_of_mem {o : Options} {sheets : List Sheet} {parts : List (List Chunk)}
    (hparts : List.Forall₂ (Covers o) sheets parts) {c : Chunk} (hc : c ∈ parts.flatten) :
    ∃ sheet ∈ sheets, ∃ part, c ∈ part ∧ Covers o sheet part := by
  induction hparts with
  | nil => cases hc
  | @cons sheet part sheets parts hcovers _ ih =>
    rw [List.flatten_cons, List.mem_append] at hc
    rcases hc with hc | hc
    · exact ⟨sheet, List.mem_cons_self, part, hc, hcovers⟩
    · obtain ⟨other, hother, later, hlater, hcovered⟩ := ih hc
      exact ⟨other, List.mem_cons_of_mem _ hother, later, hlater, hcovered⟩

theorem exists_sheet_of_mem_chunksOf {o : Options} {first : Nat} {sheets : List Sheet}
    {chunks : List Chunk} (h : chunksOf o first sheets = .ok chunks) {c : Chunk} (hc : c ∈ chunks) :
    ∃ sheet ∈ sheets, ∃ start part, sheetChunks o start sheet = .ok part ∧ c ∈ part := by
  induction sheets generalizing first chunks with
  | nil =>
    cases h
    cases hc
  | cons sheet rest ih =>
    obtain ⟨part, hpart, hrest⟩ := except_bind_eq_ok_iff.mp h
    obtain ⟨later, hlater, hchunks⟩ := except_bind_eq_ok_iff.mp hrest
    obtain rfl := Except.ok.inj hchunks
    rcases List.mem_append.mp hc with hc | hc
    · exact ⟨sheet, List.mem_cons_self, first, part, hpart, hc⟩
    · obtain ⟨other, hother, hfound⟩ := ih hlater hc
      exact ⟨other, List.mem_cons_of_mem _ hother, hfound⟩

/-- A chunk of a workbook is made from a row with data of one of its worksheets. -/
theorem exists_row_of_mem_decode {o : Options} {sheets : List Sheet} {chunks : List Chunk}
    (h : decode o (.workbook sheets) = .ok chunks) {c : Chunk} (hc : c ∈ chunks) :
    ∃ sheet ∈ sheets, ∃ columns, sheet.namedColumns o = .ok columns ∧ ∃ row ∈ sheet.dataRows o,
      c.title = sheet.title ∧ c.rowNumber = row.number
        ∧ sheet.rowData o columns row = .ok c.data := by
  obtain ⟨sheet, hsheet, start, part, hpart, hmem⟩ := exists_sheet_of_mem_chunksOf h hc
  exact ⟨sheet, hsheet, Sheet.exists_row_of_mem_sheetChunks hpart hmem⟩

/-- A chunk of a workbook has the name of a worksheet and the number of a row. -/
theorem place_of_mem_decode {o : Options} {sheets : List Sheet} {chunks : List Chunk}
    (h : decode o (.workbook sheets) = .ok chunks) {c : Chunk} (hc : c ∈ chunks) :
    c.title ∈ sheets.map (·.title) ∧ ∃ n : Nat, c.rowNumber = n := by
  obtain ⟨sheet, hsheet, columns, -, row, -, htitle, hnumber, -⟩ := exists_row_of_mem_decode h hc
  exact ⟨htitle ▸ List.mem_map_of_mem hsheet, row.number, hnumber⟩

/-- **A workbook is decoded to one chunk for each row with data of the worksheets that are read.**
Nothing but a list in a cell keeps a worksheet from being decoded.  No cell of a workbook that was
loaded from a file holds a list, so of such a workbook the first case is the one that applies. -/
theorem decode_covers (o : Options) (sheets : List Sheet) :
    (∃ chunks, decode o (.workbook sheets) = .ok chunks
        ∧ chunks.map (·.number) = List.range' 1 chunks.length
        ∧ ∃ parts, chunks = parts.flatten
          ∧ List.Forall₂ (Covers o) (sheets.filter fun sheet => isRead o sheet.title) parts)
      ∨ ∃ fault, decode o (.workbook sheets) = .error fault
        ∧ ∃ sheet ∈ sheets.filter fun sheet => isRead o sheet.title, sheet.Refuses fault :=
  chunksOf_cases o 1 sheets

end SheetRecall.Workbook
