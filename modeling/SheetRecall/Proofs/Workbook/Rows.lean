import Mathlib.Data.List.Basic
import Mathlib.Data.List.Nodup
import Mathlib.Data.List.Range
import SheetRecall.Workbook.Sheet

/-!
# Which Rows of a Worksheet Are Read

A worksheet is read by dropping from its grid: hidden rows and columns, columns that hold nothing,
rows in front of the first and behind the last row that holds anything, the header with what is in
front of it, and blank rows.  Every row keeps its position through all of that, so which rows are
left is a question about positions in the grid alone.

## Layers
- A list in ascending order: what `dropWhile` and `drop` leave is told by comparing.
- The grid by position: `RowShown`, `ColumnShown`, `Used`, `Filled`, `Within`, `HasData`.
- Each stage of reading keeps exactly the rows with its property.

## Main statements
- `mem_usedColumns_iff`: the columns that are read.
- `dataRows_eq_filter`: the rows that are read.
-/

namespace SheetRecall.Workbook

/-! ## Lists in ascending order -/

section Ascending

variable {α : Type} {r : α → α → Prop} (hasymm : ∀ a b, r a b → ¬ r b a)

include hasymm in
/-- What is dropped at the front lies in front of every element that stays. -/
theorem dropWhile_eq_filter {drop keep : α → Bool} {items : List α} (hitems : items.Pairwise r)
    (hkeep : ∀ x ∈ items, keep x = true ↔ ∃ a ∈ items, drop a = false ∧ (a = x ∨ r a x)) :
    items.dropWhile drop = items.filter keep := by
  induction items with
  | nil => rfl
  | cons a rest ih =>
    obtain ⟨ha, hrest⟩ := List.pairwise_cons.mp hitems
    -- a dropped element has nothing in front of it that stays, and behind one that stays all do
    by_cases hdrop : drop a = true
    · have hnot : ¬ keep a = true := by
        intro h
        obtain ⟨b, hb, hstays, hle⟩ := (hkeep a List.mem_cons_self).mp h
        rcases List.mem_cons.mp hb with rfl | hb
        · exact absurd (hdrop.symm.trans hstays) (by decide)
        · -- what comes later is neither the first element nor in front of it
          rcases hle with rfl | hlt
          · exact absurd (hdrop.symm.trans hstays) (by decide)
          · exact hasymm b a hlt (ha b hb)
      have hlater : ∀ x ∈ rest,
          keep x = true ↔ ∃ b ∈ rest, drop b = false ∧ (b = x ∨ r b x) := by
        intro x hx
        rw [hkeep x (List.mem_cons_of_mem _ hx), List.exists_mem_cons_iff]
        exact or_iff_right fun h => absurd (hdrop.symm.trans h.1) (by decide)
      rw [List.dropWhile_cons_of_pos hdrop, List.filter_cons_of_neg hnot, ih hrest hlater]
    · have hall : ∀ x ∈ a :: rest, keep x = true := by
        intro x hx
        refine (hkeep x hx).mpr ⟨a, List.mem_cons_self, Bool.eq_false_iff.mpr hdrop, ?_⟩
        rcases List.mem_cons.mp hx with rfl | hx
        · exact .inl rfl
        · exact .inr (ha x hx)
      rw [List.dropWhile_cons_of_neg hdrop, List.filter_eq_self.mpr hall]

include hasymm in
/-- What comes behind an element of a list in ascending order. -/
theorem drop_eq_filter {keep : α → Bool} {items : List α} (hitems : items.Pairwise r) (index : Nat)
    (hkeep : ∀ x ∈ items, keep x = true ↔ ∃ a, items[index]? = some a ∧ r a x) :
    items.drop (index + 1) = items.filter keep := by
  induction items generalizing index with
  | nil => rfl
  | cons a rest ih =>
    obtain ⟨ha, hrest⟩ := List.pairwise_cons.mp hitems
    -- the element at the index is dropped as well, and only those behind it are related to it
    cases index with
    | zero =>
      have hfirst : ¬ keep a = true := by
        intro h
        obtain ⟨b, hb, hlt⟩ := (hkeep a List.mem_cons_self).mp h
        obtain rfl : a = b := by simpa using hb
        exact hasymm a a hlt hlt
      have hall : ∀ x ∈ rest, keep x = true := fun x hx =>
        (hkeep x (List.mem_cons_of_mem _ hx)).mpr ⟨a, rfl, ha x hx⟩
      rw [List.filter_cons_of_neg hfirst, List.filter_eq_self.mpr hall]
      rfl
    | succ index =>
      have hfirst : ¬ keep a = true := by
        intro h
        obtain ⟨b, hb, hlt⟩ := (hkeep a List.mem_cons_self).mp h
        exact hasymm b a hlt (ha b (List.mem_of_getElem? hb))
      rw [List.filter_cons_of_neg hfirst]
      exact ih hrest index fun x hx => hkeep x (List.mem_cons_of_mem _ hx)

end Ascending

/-! ## The grid by position -/

namespace Sheet

/-- The cell at a position. -/
def cell (sheet : Sheet) (p column : Nat) : Cell := cellAt ((sheet.rows[p]?).getD []) column

section Positions

variable (o : Options) (sheet : Sheet)

/-- The row is there and is looked at. -/
def RowShown (p : Nat) : Prop :=
  p < sheet.rows.length ∧ (o.skipHiddenRows = true → p + 1 ∉ sheet.hiddenRows)

/-- The column is there and is looked at. -/
def ColumnShown (column : Nat) : Prop :=
  column < sheet.width
    ∧ (o.skipHiddenColumns = true → String.ofList (columnLetters column) ∉ sheet.hiddenColumns)

/-- The column is looked at and holds anything. -/
def Used (column : Nat) : Prop :=
  ColumnShown o sheet column
    ∧ ∃ p < sheet.rows.length, RowShown o sheet p ∧ (sheet.cell p column).isBlank = false

/-- The row is looked at and holds anything. -/
def Filled (p : Nat) : Prop :=
  RowShown o sheet p
    ∧ ∃ column < sheet.width, ColumnShown o sheet column ∧ (sheet.cell p column).isBlank = false

/-- The row is looked at and lies between rows that hold anything, or is one. -/
def Within (p : Nat) : Prop :=
  RowShown o sheet p ∧ (∃ first ≤ p, Filled o sheet first)
    ∧ ∃ last < sheet.rows.length, p ≤ last ∧ Filled o sheet last

instance : DecidablePred (RowShown o sheet) := fun p =>
  inferInstanceAs (Decidable (p < sheet.rows.length ∧ (_ → p + 1 ∉ sheet.hiddenRows)))

instance : DecidablePred (ColumnShown o sheet) := fun column =>
  inferInstanceAs (Decidable (column < sheet.width ∧ (_ → _ ∉ sheet.hiddenColumns)))

instance : DecidablePred (Used o sheet) := fun column =>
  inferInstanceAs (Decidable (ColumnShown o sheet column ∧ ∃ p < _, RowShown o sheet p ∧ _ = _))

instance : DecidablePred (Filled o sheet) := fun p =>
  inferInstanceAs
    (Decidable (RowShown o sheet p ∧ ∃ column < _, ColumnShown o sheet column ∧ _ = _))

instance : DecidablePred (Within o sheet) := fun p =>
  inferInstanceAs (Decidable (RowShown o sheet p ∧ (∃ first ≤ p, Filled o sheet first)
    ∧ ∃ last < _, p ≤ last ∧ Filled o sheet last))

/-- The positions from the first row that holds anything to the last. -/
def span : List Nat := (List.range sheet.rows.length).filter (Within o sheet ·)

/-- The position of the header among them. -/
def headerPosition? : Option Nat := (span o sheet)[o.headerIndex]?

/-- The row is one with data: it lies behind the header, if there is to be one, and holds anything,
if blank rows are skipped. -/
def HasData (p : Nat) : Prop :=
  Within o sheet p ∧ (o.hasHeader = true → ∃ header ∈ headerPosition? o sheet, header < p)
    ∧ (o.skipBlankRows = true → Filled o sheet p)

instance : DecidablePred (HasData o sheet) := fun p =>
  inferInstanceAs (Decidable (Within o sheet p
    ∧ (_ → ∃ header ∈ headerPosition? o sheet, header < p) ∧ (_ → Filled o sheet p)))

end Positions

/-! ## Rows and their positions -/

theorem numbered_eq_map (first : Nat) (rows : List (List Cell)) :
    numbered first rows = (rows.zipIdx first).map fun entry => ⟨entry.2, entry.1⟩ := by
  induction rows generalizing first with
  | nil => rfl
  | cons cells rest ih => rw [numbered, ih, List.zipIdx_cons, List.map_cons]

theorem map_position_numbered (rows : List (List Cell)) :
    (numbered 0 rows).map Row.position = List.range rows.length := by
  rw [numbered_eq_map, List.map_map, List.range_eq_range', ← List.zipIdx_map_snd 0 rows]
  rfl

theorem pairwise_numbered (rows : List (List Cell)) :
    (numbered 0 rows).Pairwise fun row later => row.position < later.position := by
  rw [← List.pairwise_map (f := Row.position), map_position_numbered]
  exact List.pairwise_lt_range

/-- A row of the grid has the cells at its position. -/
theorem mem_numbered_iff {rows : List (List Cell)} {row : Row} :
    row ∈ numbered 0 rows ↔ rows[row.position]? = some row.cells := by
  rw [numbered_eq_map, List.mem_map, ← List.mk_mem_zipIdx_iff_getElem?]
  constructor
  · rintro ⟨entry, hentry, rfl⟩
    exact hentry
  · intro h
    exact ⟨_, h, rfl⟩

/-- No two rows of a grid have one position. -/
theorem eq_of_position_eq {rows : List (List Cell)} {row other : Row} (hrow : row ∈ numbered 0 rows)
    (hother : other ∈ numbered 0 rows) (h : row.position = other.position) : row = other := by
  rw [mem_numbered_iff] at hrow hother
  rw [h, hother] at hrow
  cases row
  cases other
  cases h
  cases hrow
  rfl

section Stages

variable {o : Options} {sheet : Sheet}

theorem cellAt_eq_cell {row : Row} (h : row ∈ numbered 0 sheet.rows) (column : Nat) :
    cellAt row.cells column = sheet.cell row.position column := by
  rw [cell, mem_numbered_iff.mp h, Option.getD_some]

/-! ## Rows and columns that are looked at -/

theorem visibleRows_eq_filter :
    sheet.visibleRows o
      = (numbered 0 sheet.rows).filter fun row => RowShown o sheet row.position := by
  refine List.filter_congr fun row hrow => ?_
  have hlt : row.position < sheet.rows.length :=
    (List.getElem?_eq_some_iff.mp (mem_numbered_iff.mp hrow)).1
  simp [RowShown, Row.number, hlt, -not_and, imp_iff_not_or]

theorem mem_visibleRows_iff {row : Row} :
    row ∈ sheet.visibleRows o ↔ row ∈ numbered 0 sheet.rows ∧ RowShown o sheet row.position := by
  rw [visibleRows_eq_filter, List.mem_filter, decide_eq_true_eq]

/-- A row that is looked at is found by its position. -/
theorem exists_mem_visibleRows {p : Nat} (h : RowShown o sheet p) :
    ∃ row ∈ sheet.visibleRows o, row.position = p := by
  have hlt := h.1
  have hrow : (⟨p, sheet.rows[p]⟩ : Row) ∈ numbered 0 sheet.rows :=
    mem_numbered_iff.mpr (List.getElem?_eq_getElem hlt)
  exact ⟨_, mem_visibleRows_iff.mpr ⟨hrow, h⟩, rfl⟩

theorem mem_visibleColumns_iff {column : Nat} :
    column ∈ sheet.visibleColumns o ↔ ColumnShown o sheet column := by
  simp [visibleColumns, ColumnShown, imp_iff_not_or]

/-- **The columns that are read** are those that are looked at and hold anything. -/
theorem mem_usedColumns_iff {column : Nat} :
    column ∈ sheet.usedColumns o ↔ Used o sheet column := by
  rw [usedColumns, List.mem_filter, mem_visibleColumns_iff, List.any_eq_true]
  refine and_congr_right fun _ => ?_
  constructor
  · rintro ⟨row, hrow, hblank⟩
    obtain ⟨hmem, hshown⟩ := mem_visibleRows_iff.mp hrow
    rw [cellAt_eq_cell hmem, Bool.not_eq_true'] at hblank
    exact ⟨row.position, hshown.1, hshown, hblank⟩
  · rintro ⟨p, -, hshown, hblank⟩
    obtain ⟨row, hrow, rfl⟩ := exists_mem_visibleRows hshown
    have hmem := (mem_visibleRows_iff.mp hrow).1
    exact ⟨row, hrow, by rw [cellAt_eq_cell hmem, hblank]; rfl⟩

theorem pairwise_usedColumns : (sheet.usedColumns o).Pairwise (· < ·) :=
  (List.pairwise_lt_range.filter _).filter _

/-- A row holds anything if it does in a column that is read. -/
theorem blankIn_eq_false_iff {row : Row} (h : row ∈ sheet.visibleRows o) :
    blankIn (sheet.usedColumns o) row = false ↔ Filled o sheet row.position := by
  obtain ⟨hmem, hshown⟩ := mem_visibleRows_iff.mp h
  rw [blankIn, List.all_eq_false]
  constructor
  · rintro ⟨column, hcolumn, hblank⟩
    obtain ⟨hcolumn, -⟩ := mem_usedColumns_iff.mp hcolumn
    rw [cellAt_eq_cell hmem, Bool.not_eq_true] at hblank
    exact ⟨hshown, column, hcolumn.1, hcolumn, hblank⟩
  · rintro ⟨-, column, -, hcolumn, hblank⟩
    refine ⟨column, mem_usedColumns_iff.mpr ⟨hcolumn, row.position, hshown.1, hshown, hblank⟩, ?_⟩
    rw [cellAt_eq_cell hmem, hblank]
    exact Bool.false_ne_true

/-! ## The rows from the first to the last that hold anything -/

theorem pairwise_visibleRows :
    (sheet.visibleRows o).Pairwise fun row later => row.position < later.position :=
  (pairwise_numbered sheet.rows).filter _

/-- What is in front of the first row that holds anything is dropped. -/
theorem dropWhile_visibleRows :
    (sheet.visibleRows o).dropWhile (blankIn (sheet.usedColumns o))
      = (sheet.visibleRows o).filter fun row => ∃ first ≤ row.position, Filled o sheet first := by
  refine dropWhile_eq_filter (fun _ _ h => Nat.lt_asymm h) pairwise_visibleRows fun row hrow => ?_
  rw [decide_eq_true_eq]
  -- the rows in front of the first one that holds anything are dropped
  constructor
  · rintro ⟨first, hle, hfilled⟩
    obtain ⟨other, hother, rfl⟩ := exists_mem_visibleRows hfilled.1
    refine ⟨other, hother, (blankIn_eq_false_iff hother).mpr hfilled, ?_⟩
    refine hle.lt_or_eq.symm.imp_left fun heq => ?_
    exact eq_of_position_eq (mem_visibleRows_iff.mp hother).1 (mem_visibleRows_iff.mp hrow).1 heq
  · rintro ⟨other, hother, hblank, hle⟩
    refine ⟨other.position, ?_, (blankIn_eq_false_iff hother).mp hblank⟩
    rcases hle with rfl | hlt
    · exact Nat.le_refl _
    · exact Nat.le_of_lt hlt

/-- **The rows that are used** lie between rows that hold anything. -/
theorem usedRows_eq_filter :
    sheet.usedRows o = (numbered 0 sheet.rows).filter fun row => Within o sheet row.position := by
  -- read from the end, the rows behind the last one that holds anything come first
  have hback : ((sheet.visibleRows o).filter
        fun row => ∃ first ≤ row.position, Filled o sheet first).reverse.dropWhile
          (blankIn (sheet.usedColumns o))
      = ((sheet.visibleRows o).filter
        fun row => ∃ first ≤ row.position, Filled o sheet first).reverse.filter
          fun row => ∃ last < sheet.rows.length, row.position ≤ last ∧ Filled o sheet last := by
    refine dropWhile_eq_filter (r := fun row earlier : Row => earlier.position < row.position)
      (fun _ _ h => Nat.lt_asymm h) ?_ fun row hrow => ?_
    · exact List.pairwise_reverse.mpr (pairwise_visibleRows.filter _)
    rw [List.mem_reverse, List.mem_filter] at hrow
    rw [decide_eq_true_eq]
    constructor
    · rintro ⟨last, -, hle, hfilled⟩
      obtain ⟨other, hother, rfl⟩ := exists_mem_visibleRows hfilled.1
      refine ⟨other, ?_, (blankIn_eq_false_iff hother).mpr hfilled, ?_⟩
      · rw [List.mem_reverse, List.mem_filter, decide_eq_true_eq]
        exact ⟨hother, other.position, Nat.le_refl _, hfilled⟩
      · refine hle.lt_or_eq.symm.imp_left fun heq => ?_
        exact eq_of_position_eq (mem_visibleRows_iff.mp hother).1 (mem_visibleRows_iff.mp hrow.1).1
          heq.symm
    · rintro ⟨other, hother, hblank, hle⟩
      rw [List.mem_reverse, List.mem_filter] at hother
      have hfilled := (blankIn_eq_false_iff hother.1).mp hblank
      refine ⟨other.position, hfilled.1.1, ?_, hfilled⟩
      rcases hle with rfl | hlt
      · exact Nat.le_refl _
      · exact Nat.le_of_lt hlt
  rw [usedRows, dropWhile_visibleRows, hback, List.filter_reverse, List.reverse_reverse,
    visibleRows_eq_filter, List.filter_filter, List.filter_filter]
  refine List.filter_congr fun row _ => ?_
  rw [Bool.eq_iff_iff, Bool.and_eq_true, Bool.and_eq_true, decide_eq_true_eq, decide_eq_true_eq,
    decide_eq_true_eq, decide_eq_true_eq]
  exact ⟨fun h => ⟨h.2, h.1.2, h.1.1⟩, fun h => ⟨⟨h.2.2, h.2.1⟩, h.1⟩⟩

theorem map_position_usedRows : (sheet.usedRows o).map Row.position = span o sheet := by
  rw [usedRows_eq_filter, span, ← map_position_numbered, List.filter_map]
  rfl

theorem pairwise_usedRows :
    (sheet.usedRows o).Pairwise fun row later => row.position < later.position := by
  rw [usedRows_eq_filter]
  exact (pairwise_numbered sheet.rows).filter _

/-! ## The rows with data -/

/-- The rows behind the header. -/
theorem drop_usedRows :
    (sheet.usedRows o).drop (o.headerIndex + 1)
      = (sheet.usedRows o).filter fun row =>
          ∃ header ∈ headerPosition? o sheet, header < row.position := by
  refine drop_eq_filter (fun _ _ h => Nat.lt_asymm h) pairwise_usedRows _ fun row _ => ?_
  rw [decide_eq_true_eq, headerPosition?, ← map_position_usedRows, List.getElem?_map]
  simp [and_comm]

/-- **The rows that are read** are those with data. -/
theorem dataRows_eq_filter :
    sheet.dataRows o = (numbered 0 sheet.rows).filter fun row => HasData o sheet row.position := by
  -- the rows behind the header, or all of them if there is none
  have hbody : (if o.hasHeader then (sheet.usedRows o).drop (o.headerIndex + 1)
        else sheet.usedRows o)
      = (sheet.usedRows o).filter fun row =>
          o.hasHeader = true → ∃ header ∈ headerPosition? o sheet, header < row.position := by
    split
    case isTrue hheader => simp only [drop_usedRows, hheader, true_imp_iff]
    case isFalse hheader => simp [hheader]
  -- a blank row is skipped only where that is asked for
  have hblank : ∀ row ∈ sheet.usedRows o,
      (!(o.skipBlankRows && blankIn (sheet.usedColumns o) row)) = true
        ↔ (o.skipBlankRows = true → Filled o sheet row.position) := by
    intro row hrow
    rw [usedRows_eq_filter, List.mem_filter, decide_eq_true_eq] at hrow
    rw [← blankIn_eq_false_iff (mem_visibleRows_iff.mpr ⟨hrow.1, hrow.2.1⟩)]
    cases o.skipBlankRows <;> simp
  have hdata : sheet.dataRows o = (sheet.usedRows o).filter fun row =>
      (o.hasHeader = true → ∃ header ∈ headerPosition? o sheet, header < row.position)
        ∧ (o.skipBlankRows = true → Filled o sheet row.position) := by
    rw [dataRows, hbody, List.filter_filter]
    refine List.filter_congr fun row hrow => ?_
    rw [Bool.eq_iff_iff, Bool.and_eq_true, hblank row hrow, decide_eq_true_eq, decide_eq_true_eq]
    exact and_comm
  rw [hdata, usedRows_eq_filter, List.filter_filter]
  refine List.filter_congr fun row _ => ?_
  rw [Bool.eq_iff_iff, Bool.and_eq_true, decide_eq_true_eq, decide_eq_true_eq, decide_eq_true_eq]
  exact and_comm

/-- The positions of the rows that are read, from the first to the last. -/
theorem map_position_dataRows :
    (sheet.dataRows o).map Row.position
      = (List.range sheet.rows.length).filter (HasData o sheet ·) := by
  rw [dataRows_eq_filter, ← map_position_numbered, List.filter_map]
  rfl

/-- The header is in the second row; the third row is hidden, the fifth and the last are blank. -/
example :
    let row (s : String) : List Cell := [.value (.text s)]
    let sheet : Sheet := { title := "S", hiddenRows := [3], rows :=
      [[], row "Name", row "a", row "b", [], row "c", [.value .null]] }
    (List.range 7).filter (HasData {} sheet ·) = [3, 5]
      ∧ (List.range 7).filter (HasData { skipBlankRows := false } sheet ·) = [3, 4, 5] := by
  decide +kernel

end Stages

end Sheet

end SheetRecall.Workbook
