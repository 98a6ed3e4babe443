import SheetRecall.Memory.Fields
import SheetRecall.Proofs.Document.Offered
import SheetRecall.Proofs.Task

/-!
# Discovered Columns Are Stored Ones

A catalog drops a name that differs from a known one in the case of letters only.  Columns stand
under stored names, and these are in lower case, so of the columns of documents that were written
none is dropped.  A discovered name is also the stored form of itself, so a filter on it asks for
the very column that was discovered.

## Main statements
- `exists_ofDocuments`: the columns of a catalog are those of the rows, if these are in lower case.
- `discovered_columns_found`: what a memory discovers in an index, and what filters on it find.
-/

namespace SheetRecall

namespace Catalog

/-! ## Adding names -/

theorem addNames_cons (known : List String) (name : String) (rest : List String) :
    addNames known (name :: rest)
      = addNames (if known.any (sameName name) then known else known ++ [name]) rest := rfl

/-- Names in lower case are the same but for the case of letters only if they are equal. -/
theorem any_sameName_iff {known : List String} {name : String}
    (hknown : ∀ n ∈ known, Text.lower n = n) (hname : Text.lower name = name) :
    known.any (sameName name) = true ↔ name ∈ known := by
  simp only [List.any_eq_true, sameName, beq_iff_eq, hname]
  constructor
  · rintro ⟨other, hother, hsame⟩
    rw [hsame, hknown other hother]
    exact hother
  · intro hmem
    exact ⟨name, hmem, hname.symm⟩

/-- Of names in lower case none is dropped, and none is there twice. -/
theorem addNames_of_lower {known names : List String} (hknown : ∀ n ∈ known, Text.lower n = n)
    (hnames : ∀ n ∈ names, Text.lower n = n) (hnodup : known.Nodup) :
    (addNames known names).Nodup ∧ ∀ n, n ∈ addNames known names ↔ n ∈ known ∨ n ∈ names := by
  -- the known names grow along the names, and stay lower-case and distinct on the way
  induction names generalizing known with
  | nil => exact ⟨hnodup, fun n => by simp [addNames]⟩
  | cons name rest ih =>
    have hname := hnames name List.mem_cons_self
    have hrest : ∀ n ∈ rest, Text.lower n = n := fun n hn => hnames n (List.mem_cons_of_mem _ hn)
    rw [addNames_cons]
    by_cases hmem : name ∈ known
    · -- a name that is known already adds nothing
      rw [if_pos ((any_sameName_iff hknown hname).mpr hmem)]
      obtain ⟨hnodup', hiff⟩ := ih hknown hrest hnodup
      refine ⟨hnodup', fun n => ?_⟩
      rw [hiff, List.mem_cons]
      constructor
      · exact Or.imp_right Or.inr
      · rintro (hn | rfl | hn)
        · exact Or.inl hn
        · exact Or.inl hmem
        · exact Or.inr hn
    · rw [if_neg (mt (any_sameName_iff hknown hname).mp hmem)]
      -- a new name is its own lower-case form, so the names before it keep theirs
      have hknown' : ∀ n ∈ known ++ [name], Text.lower n = n := by
        intro n hn
        rcases List.mem_append.mp hn with hn | hn
        · exact hknown n hn
        · exact List.mem_singleton.mp hn ▸ hname
      have hadded : (known ++ [name]).Nodup := List.concat_eq_append ▸ hnodup.concat hmem
      obtain ⟨hnodup', hiff⟩ := ih hknown' hrest hadded
      refine ⟨hnodup', fun n => ?_⟩
      rw [hiff, List.mem_append, List.mem_singleton, List.mem_cons, or_assoc]

/-! ## Catalogs of rows -/

/-- The names in a part of a row that is a map. -/
def partNames (part : String) (row : Fields) : List String :=
  match row.get? part with
  | some (.map fields) => Entries.names fields
  | _ => []

theorem namesIn_map (part : String) (row : Fields) :
    namesIn part (.map row) = .ok (partNames part row) := by
  rw [namesIn.eq_1, partNames]
  cases row.get? part with
  | none => rfl
  | some v => cases v <;> rfl

theorem addDocument_map (catalog : Catalog) (row : Fields) :
    addDocument catalog (.map row)
      = .ok ⟨addNames catalog.tags (partNames Part.tags row),
          addNames catalog.columns (partNames Part.data row)⟩ := by
  simp only [addDocument, namesIn_map]
  rfl

theorem mem_partNames_data {row : Fields} {name : String} :
    name ∈ partNames Part.data row ↔ ∃ w, cell name row = some w := by
  rw [cell, partNames]
  cases row.get? Part.data with
  | none => simp
  | some v =>
    cases v with
    | map columns => exact Entries.mem_names_iff
    | _ => simp

/-- The catalog of documents, made of all of them. -/
def ofFields (documents : List Fields) : Catalog :=
  ⟨addNames [] (documents.flatMap (partNames Part.tags)),
    addNames [] (documents.flatMap (partNames Part.data))⟩

theorem addNames_append (known names more : List String) :
    addNames known (names ++ more) = addNames (addNames known names) more := List.foldl_append

/-- Helper: documents are added to a catalog one by one. -/
private theorem foldlM_addDocument (documents : List Fields) (catalog : Catalog) :
    (documents.map Value.map).foldlM addDocument catalog
      = .ok ⟨addNames catalog.tags (documents.flatMap (partNames Part.tags)),
          addNames catalog.columns (documents.flatMap (partNames Part.data))⟩ := by
  induction documents generalizing catalog with
  | nil => rfl
  | cons document rest ih =>
    rw [List.map_cons, List.foldlM_cons, addDocument_map]
    simp only [List.flatMap_cons, addNames_append]
    exact ih _

theorem ofDocuments_map (documents : List Fields) :
    ofDocuments (documents.map .map) = .ok (ofFields documents) := foldlM_addDocument documents {}

/-- The columns of a catalog are the columns of the rows that it is made of, each once, if these
are in lower case. -/
theorem exists_ofDocuments {rows : List Fields}
    (hlower : ∀ row ∈ rows, ∀ name ∈ partNames Part.data row, Text.lower name = name) :
    ∃ catalog, ofDocuments (rows.map Value.map) = .ok catalog ∧ catalog.columns.Nodup
      ∧ ∀ name, name ∈ catalog.columns ↔ ∃ row ∈ rows, ∃ w, cell name row = some w := by
  have hnames : ∀ name ∈ rows.flatMap (partNames Part.data), Text.lower name = name := by
    intro name hname
    obtain ⟨row, hrow, hpart⟩ := List.mem_flatMap.mp hname
    exact hlower row hrow name hpart
  obtain ⟨hnodup, hiff⟩ := addNames_of_lower (by simp) hnames List.nodup_nil
  refine ⟨ofFields rows, ofDocuments_map rows, hnodup, fun name => ?_⟩
  rw [ofFields, hiff]
  simp only [List.mem_flatMap, mem_partNames_data, List.not_mem_nil, false_or]

end Catalog

/-! ## What an index tells about its columns -/

namespace Memory

open SheetRecall.Store SheetRecall.Task

/-- The rows answer the query for a sample: each shows the columns of a document, and each document
is shown, in any order. -/
structure Sampled (documents rows : List Fields) : Prop where
  sound : ∀ row ∈ rows, ∃ d ∈ documents, row.get? Part.data = d.get? Part.data
  complete : ∀ d ∈ documents, ∃ row ∈ rows, row.get? Part.data = d.get? Part.data

theorem cell_congr {row document : Fields} (h : row.get? Part.data = document.get? Part.data)
    (column : String) : cell column row = cell column document := by
  rw [cell, cell, h]

theorem Sampled.exists_cell_iff {documents rows : List Fields} (h : Sampled documents rows)
    (column : String) :
    (∃ row ∈ rows, ∃ w, cell column row = some w)
      ↔ ∃ d ∈ documents, ∃ w, cell column d = some w := by
  constructor
  · rintro ⟨row, hrow, w, hcell⟩
    obtain ⟨d, hd, hsame⟩ := h.sound row hrow
    exact ⟨d, hd, w, (cell_congr hsame column).symm.trans hcell⟩
  · rintro ⟨d, hd, w, hcell⟩
    obtain ⟨row, hrow, hsame⟩ := h.complete d hd
    exact ⟨row, hrow, w, (cell_congr hsame column).trans hcell⟩

theorem perform_needRows {m : Memory} (hrows : m.codec.rows.isSome = true) (s : Session) :
    perform m.needRows s = (.ok (), s) := by
  rw [needRows, if_pos hrows]
  rfl

/-- A query is answered by the account, and the session records it. -/
theorem perform_ask (m : Memory) (index : String) (statement : Query.Statement) (s : Session) :
    perform (m.ask index statement) s
      = (.ok (s.account.answer m.database index statement.text),
        s.record (.asked index statement)) := rfl

/-- A memory for rows takes the catalog from the answer to its query for a sample. -/
theorem perform_catalog {m : Memory} (hrows : m.codec.rows.isSome = true) {index : String}
    {s : Session} {catalog : Catalog}
    (h : Catalog.ofDelivery
      (s.account.answer m.database index (Query.sample m.sampleSize).text) = .ok catalog) :
    perform (m.catalog index) s
      = (.ok catalog, s.record (.asked index (Query.sample m.sampleSize))) := by
  rw [Memory.catalog, perform_bind_of_ok (perform_needRows hrows s),
    perform_bind_of_ok (perform_ask m index _ s), h]
  rfl

/-- **Discovered columns address what is stored.**  Let an index answer with documents that were
written with their columns under stored names, in any order.  The columns that a memory discovers
are those of the documents, all of them and each once.  A filter on one of them that has a name asks
for exactly that name, so it holds of the documents that store an equal value there. -/
theorem discovered_columns_found {m : Memory} (hrows : m.codec.rows.isSome = true)
    {documents rows : List Fields} (hwritten : ∀ d ∈ documents, Codec.Written d)
    (hsampled : Sampled documents rows) {index : String} {s : Session}
    (hanswer : s.account.answer m.database index (Query.sample m.sampleSize).text
      = ⟨rows.map .map, none⟩)
    (equal : Value → Value → Prop) (item : String) :
    ∃ catalog s', perform (m.catalog index) s = (.ok catalog, s')
      ∧ catalog.columns.Nodup
      ∧ (∀ name, name ∈ catalog.columns ↔ ∃ d ∈ documents, ∃ w, cell name d = some w)
      ∧ ∀ name ∈ catalog.columns, name ≠ "" → ∀ v, v ≠ .null →
        let compiled := Filter.compile true item [Filter.empty.byColumn name v]
        compiled.clause = some ⟨[[.columnEquals name (Filter.parameterName 0)]]⟩
          ∧ compiled.parameters = [(Filter.parameterName 0, v)]
          ∧ ∀ d ∈ documents, compiled.Holds (documentReading equal) d
              ↔ ∃ w, cell name d = some w ∧ equal w v := by
  -- a name that is discovered stands in a document, so it is a stored one
  have hstored : ∀ name, (∃ d ∈ documents, ∃ w, cell name d = some w) →
      Column.stored name = name := by
    rintro name ⟨d, hd, w, hcell⟩
    exact (hwritten d hd).stored_eq hcell
  have hlower : ∀ row ∈ rows, ∀ name ∈ Catalog.partNames Part.data row,
      Text.lower name = name := by
    intro row hrow name hname
    obtain ⟨w, hcell⟩ := Catalog.mem_partNames_data.mp hname
    have hname := hstored name ((hsampled.exists_cell_iff name).mp ⟨row, hrow, w, hcell⟩)
    rw [← hname, Column.lower_stored]
  -- so the names of the sample are lower-case, and none of them is lost to another spelling
  obtain ⟨catalog, hcatalog, hnodup, hiff⟩ := Catalog.exists_ofDocuments hlower
  have hdelivery : Catalog.ofDelivery
      (s.account.answer m.database index (Query.sample m.sampleSize).text) = .ok catalog := by
    rw [hanswer]
    exact hcatalog
  have hcolumns : ∀ name, name ∈ catalog.columns ↔ ∃ d ∈ documents, ∃ w, cell name d = some w :=
    fun name => (hiff name).trans (hsampled.exists_cell_iff name)
  refine ⟨catalog, _, perform_catalog hrows hdelivery, hnodup, hcolumns, ?_⟩
  -- for a discovered name, the mark leads to that column and to no other filter
  intro name hname hnamed v hv
  have hself := hstored name ((hcolumns name).mp hname)
  have htarget : Filter.target? true (Filter.columnMark ++ name) = some (.column name) := by
    rw [Filter.target?_marked, if_neg hnamed, Filter.columnName, if_pos rfl, hself]
  obtain ⟨hclause, hparameters⟩ := Filter.compile_singleton hv htarget item
  refine ⟨hclause, hparameters, fun d _ => ?_⟩
  rw [Filter.compile_eq_compileGroups, Filter.compileGroups_holds_iff,
    Filter.selects_byColumn_iff _ _ _ hnamed hv, Filter.columnName, if_pos rfl, hself,
    columnEquals_iff_cell]

/-- An account whose database `d` has the index `machines` with two documents. -/
def machines : Account :=
  { databases := [("d",
      { made := true
        containers := [("machines",
          { properties := Account.newProperties "machines" (.int 0)
            documents := [coresDocument (.int 4), coresDocument (.text "many")] })] })] }

/-- Two documents have the column that was given as `Cores`; it is discovered once, as `cores`. -/
theorem discovered_columns_found_cores :
    let documents := [coresDocument (.int 4), coresDocument (.text "many")]
    ∃ catalog s', perform ((tabular "d" true (.int 10)).catalog "machines") { account := machines }
        = (.ok catalog, s')
      ∧ catalog.columns.Nodup
      ∧ (∀ name, name ∈ catalog.columns ↔ ∃ d ∈ documents, ∃ w, cell name d = some w)
      ∧ ∀ name ∈ catalog.columns, name ≠ "" → ∀ v, v ≠ .null →
        let compiled := Filter.compile true "c" [Filter.empty.byColumn name v]
        compiled.clause = some ⟨[[.columnEquals name (Filter.parameterName 0)]]⟩
          ∧ compiled.parameters = [(Filter.parameterName 0, v)]
          ∧ ∀ d ∈ documents, compiled.Holds (documentReading fun w v => w.same v = true) d
              ↔ ∃ w, cell name d = some w ∧ w.same v = true := by
  intro documents
  have hwritten : ∀ d ∈ documents, Codec.Written d := by
    intro d hd
    simp only [documents, List.mem_cons, List.not_mem_nil, or_false] at hd
    rcases hd with rfl | rfl <;> exact written_coresDocument _
  have hsampled : Sampled documents documents :=
    ⟨fun d hd => ⟨d, hd, rfl⟩, fun d hd => ⟨d, hd, rfl⟩⟩
  exact discovered_columns_found rfl hwritten hsampled rfl _ "c"

end Memory

end SheetRecall
