import Mathlib.Algebra.BigOperators.Group.List.Lemmas
import Mathlib.Data.List.Dedup
import SheetRecall.Proofs.Catalog.Ranking
import SheetRecall.Proofs.Column.Stored
import SheetRecall.Proofs.Document.Columns

/-!
# Values that Are Offered and Found

The values of a column are counted in the store, one row for each value, and offered as texts.  A
text that is offered makes a filter, and the filter looks for that text.  So it finds the cells that
are the text, and not those of other kinds that were counted under it: an integer is offered by its
digits, and is not found by them.

## Main statements
- `offered_count`: how the count of an offered text and the documents that its filter finds differ.
- `integer_not_found`: a column of integers, none of which is found by the text that is offered.
-/

namespace SheetRecall

/-! ## Cells -/

/-- The cell of a document in a column. -/
def cell (column : String) (document : Fields) : Option Value :=
  match document.get? Part.data with
  | some (.map columns) => Entries.get? columns column
  | _ => none

/-- What a filter asks of a column it asks of the cell in it. -/
theorem columnEquals_iff_cell (equal : Value → Value → Prop) (column : String) (v : Value)
    (document : Fields) :
    (documentReading equal).columnEquals column v document
      ↔ ∃ w, cell column document = some w ∧ equal w v := by
  simp only [documentReading, cell]
  constructor
  · rintro ⟨columns, w, hdata, hcell, hequal⟩
    exact ⟨w, by rw [hdata]; exact hcell, hequal⟩
  · rintro ⟨w, hcell, hequal⟩
    split at hcell
    case h_1 columns hdata => exact ⟨columns, w, hdata, hcell, hequal⟩
    case h_2 => cases hcell

namespace Codec

/-- The document was written, with its columns under their stored names. -/
def Written (document : Fields) : Prop :=
  ∃ codec rows record given encoded, rows.normalize = true
    ∧ encodeRow codec rows record given = .ok encoded ∧ encoded.document = document

/-- The columns of a document that was written stand under stored names. -/
theorem Written.stored_eq {document : Fields} (h : Written document) {column : String} {w : Value}
    (hcell : cell column document = some w) : Column.stored column = column := by
  obtain ⟨codec, rows, record, given, encoded, hnormalize, hencoded, rfl⟩ := h
  cases hrow : codec.rowOf rows record given with
  | error fault =>
    rw [encodeRow, hrow] at hencoded
    cases hencoded
  | ok taken =>
    rw [encodeRow_of_rowOf hrow] at hencoded
    obtain ⟨-, -, rfl⟩ := except_map_eq_ok_iff.mp hencoded
    have hcolumns :
        Entries.get? (storedColumns rows (taken.1.data.getD [])) column = some w := hcell
    exact storedNames_storedColumns rows _ hnormalize (column, w)
      (Entries.mem_of_get?_eq_some hcolumns)

end Codec

/-! ## Rows of counts -/

open Classical in
/-- One row for each value that occurs among cells, with the number of cells that it is in. -/
structure GroupedBy (cells : List Value) (rows : List (Value × Nat)) : Prop where
  nodup : (rows.map (·.1)).Nodup
  complete : ∀ v, v ∈ rows.map (·.1) ↔ v ∈ cells
  counted : ∀ row ∈ rows, row.2 = cells.countP fun w => w = row.1

/-- The counts of the values with some property add up to the number of cells with it. -/
theorem GroupedBy.sum_filter {cells : List Value} {rows : List (Value × Nat)}
    (h : GroupedBy cells rows) (p : Value → Bool) :
    ((rows.filter fun row => p row.1).map (·.2)).sum = cells.countP p := by
  classical
  -- both lists have each value that occurs once, so a sum over one is a sum over the other
  have hperm : (rows.map (·.1)).Perm cells.dedup := by
    rw [List.perm_ext_iff_of_nodup h.nodup cells.nodup_dedup]
    intro v
    rw [h.complete, List.mem_dedup]
  have hcounts : ∀ row ∈ rows.filter fun row => p row.1, row.2 = cells.count row.1 := by
    intro row hrow
    rw [h.counted row (List.mem_of_mem_filter hrow), List.count]
    exact List.countP_congr fun w _ => by simp
  calc ((rows.filter fun row => p row.1).map (·.2)).sum
      = (((rows.map (·.1)).filter p).map fun v => cells.count v).sum := by
        rw [List.filter_map, List.map_map]
        exact congrArg List.sum (List.map_congr_left hcounts)
    _ = ((cells.dedup.filter p).map fun v => cells.count v).sum :=
        ((hperm.filter p).map _).sum_eq
    _ = cells.countP p := List.sum_map_count_dedup_filter_eq_countP p cells

/-! ## What is found -/

/-- A filter on a column of documents that were written, by a text, finds the cells that are the
text. -/
theorem byColumn_text_holds_iff {equal : Value → Value → Prop}
    (htext : ∀ w text, equal w (.text text) ↔ w = .text text) (item : String) {column : String}
    (hcolumn : column ≠ "") (hstored : Column.stored column = column) (text : String)
    (document : Fields) :
    (Filter.compile true item [Filter.empty.byColumn column (.text text)]).Holds
        (documentReading equal) document
      ↔ cell column document = some (.text text) := by
  rw [Filter.compile_eq_compileGroups, Filter.compileGroups_holds_iff,
    Filter.selects_byColumn_iff _ _ _ hcolumn (by simp), Filter.columnName, if_pos rfl, hstored,
    columnEquals_iff_cell]
  simp only [htext, exists_eq_right]

/-- A filter on the column without a name asks for nothing, so it finds every document. -/
theorem byColumn_unnamed_holds (I : Filter.Interpretation Fields) (item : String) (v : Value)
    (document : Fields) :
    (Filter.compile true item [Filter.empty.byColumn "" v]).Holds I document := by
  rw [Filter.compile_eq_compileGroups, Filter.compileGroups_holds_iff]
  refine Or.inl fun f hf => ?_
  obtain rfl := List.mem_singleton.mp hf
  rintro ⟨pair, hpair, husable⟩
  obtain rfl := List.mem_singleton.mp hpair
  exact husable.2.2 rfl

open Classical in
/-- The documents that a text is counted in are those whose cell is the text, and those whose cell
is of another kind and offered under it. -/
theorem countP_offered (documents : List Fields) (column text : String) :
    (documents.filterMap (cell column)).countP (fun w => Catalog.offered w = text)
      = documents.countP (fun d => cell column d = some (.text text))
        + documents.countP fun d =>
          ∃ w, cell column d = some w ∧ w ≠ .text text ∧ Catalog.offered w = text := by
  -- the cells that are offered as the text are either that text or something else
  rw [List.countP_filterMap,
    List.countP_eq_countP_filter_add documents _ fun d => cell column d = some (.text text),
    List.countP_filter, List.countP_filter]
  congr 1
  · -- a text is offered as itself
    refine List.countP_congr fun d _ => ?_
    cases cell column d with
    | none => simp
    | some w => simp +contextual [Catalog.offered]
  · refine List.countP_congr fun d _ => ?_
    cases cell column d with
    | none => simp
    | some w => simp [and_comm]

open Classical in
/-- **What is offered is found, unless it is of another kind.**  Let the rows of counts be those of
a column of documents that were written, and let a text be offered with some count.  The count is
the number of documents that the filter by the text finds, and of those whose cell is not a text but
offered under this one; the filter finds none of the latter.  Only the column without a name is not
looked at: a filter on it finds every document. -/
theorem offered_count {documents : List Fields} (hwritten : ∀ d ∈ documents, Codec.Written d)
    {column : String} (hcolumn : ∃ d ∈ documents, (cell column d).isSome = true)
    {rows : List (Value × Nat)} (hrows : GroupedBy (documents.filterMap (cell column)) rows)
    {limit : Int} (hlimit : rows.length ≤ limit) {equal : Value → Value → Prop}
    (htext : ∀ w text, equal w (.text text) ↔ w = .text text) (item : String) :
    ∃ values, Catalog.rank (rows.map Catalog.countRow) (.int limit) = .ok values
      ∧ ∀ text count, (text, count) ∈ values →
        let found := documents.countP fun d =>
          (Filter.compile true item [Filter.empty.byColumn column (.text text)]).Holds
            (documentReading equal) d
        let others := documents.countP fun d =>
          ∃ w, cell column d = some w ∧ w ≠ .text text ∧ Catalog.offered w = text
        if column = "" then found = documents.length else count = found + others := by
  obtain ⟨values, hrank, hvalues⟩ := Catalog.exists_rank hlimit
  refine ⟨values, hrank, fun text count hmem => ?_⟩
  intro found others
  split
  case isTrue hunnamed =>
    subst hunnamed
    exact List.countP_eq_length.mpr fun d _ => decide_eq_true (byColumn_unnamed_holds _ _ _ d)
  case isFalse hnamed =>
    -- a column that stands in a document is a stored name, so the filter looks where the cell is
    obtain ⟨d, hd, hcell⟩ := hcolumn
    obtain ⟨w, hw⟩ := Option.isSome_iff_exists.mp hcell
    have hstored := (hwritten d hd).stored_eq hw
    have hfound : found = documents.countP fun d => cell column d = some (.text text) :=
      List.countP_congr fun d _ => by
        simp only [decide_eq_true_eq]
        exact byColumn_text_holds_iff htext item hnamed hstored text d
    have hcount := hrows.sum_filter fun v => Catalog.offered v = text
    rw [countP_offered] at hcount
    rw [((hvalues text count).mp hmem).2, hcount, hfound, Nat.cast_add]

/-! ## A text and an integer -/

/-- A document with the one column `cores`. -/
def coresDocument (cores : Value) : Fields :=
  (Codec.tabular {}).commonParts ⟨"r", [], [], []⟩
    ++ Codec.rowParts {} ⟨some [("Cores", cores)], none⟩

theorem written_coresDocument (cores : Value) : Codec.Written (coresDocument cores) :=
  ⟨Codec.tabular {}, {}, ⟨"r", [], [], []⟩, ⟨some [("Cores", cores)], none⟩, _, rfl, rfl, rfl⟩

theorem cell_coresDocument (cores : Value) : cell "cores" (coresDocument cores) = some cores := by
  have hstored : Column.stored "Cores" = "cores" := by decide +kernel
  have hcell : cell "cores" (coresDocument cores)
      = Entries.get? (Entries.ofPairs [(Column.stored "Cores", cores)]) "cores" := rfl
  rw [hcell, hstored]
  rfl

open Classical in
/-- A text "4" and an integer 4 are counted under one text; the count is that of the document that
is found and of the one that is not. -/
theorem offered_count_four :
    ∃ values, Catalog.rank [Catalog.countRow (.text "4", 1), Catalog.countRow (.int 4, 1)] (.int 10)
        = .ok values
      ∧ ∀ text count, (text, count) ∈ values →
        let documents := [coresDocument (.text "4"), coresDocument (.int 4)]
        let found := documents.countP fun d =>
          (Filter.compile true "c" [Filter.empty.byColumn "cores" (.text text)]).Holds
            (documentReading fun w v => w.same v = true) d
        let others := documents.countP fun d =>
          ∃ w, cell "cores" d = some w ∧ w ≠ .text text ∧ Catalog.offered w = text
        if "cores" = "" then found = documents.length else count = found + others := by
  -- the two documents keep what the general theorem asks of written ones
  have hwritten : ∀ d ∈ [coresDocument (.text "4"), coresDocument (.int 4)], Codec.Written d := by
    intro d hd
    simp only [List.mem_cons, List.not_mem_nil, or_false] at hd
    rcases hd with rfl | rfl <;> exact written_coresDocument _
  have hcells : [coresDocument (.text "4"), coresDocument (.int 4)].filterMap (cell "cores")
      = [.text "4", .int 4] := by
    simp only [List.filterMap_cons, List.filterMap_nil, cell_coresDocument]
  have hrows : GroupedBy
      ([coresDocument (.text "4"), coresDocument (.int 4)].filterMap (cell "cores"))
      [(.text "4", 1), (.int 4, 1)] := by
    rw [hcells]
    exact ⟨by simp, by simp, by simp⟩
  have hcolumn : ∃ d ∈ [coresDocument (.text "4"), coresDocument (.int 4)],
      (cell "cores" d).isSome = true :=
    ⟨_, List.mem_cons_self, by rw [cell_coresDocument]; rfl⟩
  exact offered_count hwritten hcolumn hrows (by decide) Value.same_text_iff "c"

/-- The column with the one integer 4 is offered as the text "4", which stands in one document, and
the filter by that text does not find it. -/
theorem integer_not_found :
    Codec.Written (coresDocument (.int 4))
      ∧ cell "cores" (coresDocument (.int 4)) = some (.int 4)
      ∧ GroupedBy ([coresDocument (.int 4)].filterMap (cell "cores")) [(.int 4, 1)]
      ∧ Catalog.rank [Catalog.countRow (.int 4, 1)] (.int 10) = .ok [("4", 1)]
      ∧ ¬(Filter.compile true "c" [Filter.empty.byColumn "cores" (.text "4")]).Holds
          (documentReading fun w v => w.same v = true) (coresDocument (.int 4)) := by
  have hrows : GroupedBy ([coresDocument (.int 4)].filterMap (cell "cores")) [(.int 4, 1)] := by
    rw [List.filterMap_cons_some (cell_coresDocument _), List.filterMap_nil]
    exact ⟨by simp, by simp, by simp⟩
  refine ⟨written_coresDocument _, cell_coresDocument _, hrows, by decide +kernel,
    fun hfound => ?_⟩
  have hcell := (byColumn_text_holds_iff Value.same_text_iff "c" (by decide) (by decide +kernel)
    "4" (coresDocument (.int 4))).mp hfound
  rw [cell_coresDocument] at hcell
  cases hcell

end SheetRecall
