import SheetRecall.Proofs.Document.Offered
import SheetRecall.Proofs.Filter.Grammar
import SheetRecall.Query.Discovery

/-!
# Counted Columns and Tested Columns

The values of a column are counted under its name as it is given, and a filter on the column tests
the stored spelling of the name.  Both names are read from the texts of the queries, so what is
compared is what the store is asked, with quotes and backslashes taken off.

## The two sides
- `countedColumn?`: the column that a query for the values of a column selects, asks for, and
  groups on.
- `testedColumn?`: the column in the only predicate of a condition.

## Main statement
`counted_tested_iff`: the two are one column exactly if the name is in lower case.  Under any other
name nothing is counted in documents that were written, though a filter of that name finds them.
-/

namespace SheetRecall.Query

open SheetRecall.Text SheetRecall.Filter

/-! ## The columns in the texts of queries -/

/-- The column whose values a query counts, if it selects, asks for and groups on one column. -/
def countedColumn? (text : String) : Option String := do
  let rest ← dropWord? "SELECT ".toList text.toList
  let (selected, rest) ← readPath? defaultItem Part.data rest
  let rest ← dropWord? " AS fieldValue, COUNT(1) AS occurrences FROM ".toList rest
  let rest ← dropWord? defaultItem.toList rest
  let rest ← dropWord? " WHERE IS_DEFINED(".toList rest
  let (defined, rest) ← readPath? defaultItem Part.data rest
  let rest ← dropWord? ") GROUP BY ".toList rest
  let (grouped, rest) ← readPath? defaultItem Part.data rest
  if rest = [] ∧ selected = grouped ∧ defined = grouped then some grouped else none

/-- The column that a condition tests, if it tests nothing but one column. -/
def testedColumn? (text : String) : Option String :=
  match readCondition? defaultItem text with
  | some ⟨[[.columnEquals column _]]⟩ => some column
  | _ => none

private theorem valueCounts_text (name : String) :
    (valueCounts .column name).text
      = "SELECT " ++ propertyPath defaultItem Part.data name
        ++ " AS fieldValue, COUNT(1) AS occurrences FROM " ++ defaultItem ++ " WHERE IS_DEFINED("
        ++ propertyPath defaultItem Part.data name ++ ") GROUP BY "
        ++ propertyPath defaultItem Part.data name := rfl

/-- The values of a column are counted under the name as it is given, whatever it holds. -/
theorem countedColumn?_valueCounts (name : String) :
    countedColumn? (valueCounts .column name).text = some name := by
  -- the last path ends the text
  have hlast := readPath?_propertyPath defaultItem Part.data name []
  rw [List.append_nil] at hlast
  rw [countedColumn?, valueCounts_text]
  simp only [String.toList_append, List.append_assoc, dropWord?_append, readPath?_propertyPath,
    hlast, Option.bind_eq_bind, Option.bind_some, and_self, if_true]

/-- A filter on a column tests the name under which the column is stored. -/
theorem testedColumn?_byColumn (normalize : Bool) {column : String} (hcolumn : column ≠ "")
    {v : Value} (hv : v ≠ .null) :
    testedColumn? (compile normalize defaultItem [empty.byColumn column v]).whereText
      = some (columnName normalize column) := by
  have htarget : target? normalize (columnMark ++ column)
      = some (.column (columnName normalize column)) := by
    rw [target?_marked, if_neg hcolumn]
  obtain ⟨hclause, -⟩ := compile_singleton hv htarget defaultItem
  have hitem : IsIdentifier defaultItem := ⟨by decide, List.all_eq_true.mp (by decide)⟩
  have hclause : (compile normalize defaultItem [empty.byColumn column v]).clause
      = some ⟨[[.columnEquals (columnName normalize column) (parameterName 0)]]⟩ := hclause
  -- the text of the condition is read back as the clause
  rw [testedColumn?, Compiled.whereText, hclause, compile_item]
  simp only [readCondition?_render hitem _ (wellFormed_of_compile hclause)]

/-! ## Main statement -/

/-- **The values of a column are counted where a filter on it looks exactly if the name is in lower
case.**  The query for the values takes the name as it is given, the filter takes its stored
spelling, and these are the same for names in lower case only.  Documents that were written have no
cell under another name, so nothing is counted there.  The query for the stored spelling counts
what the filter tests, whatever spelling the filter is given. -/
theorem counted_tested_iff {column : String} (hcolumn : column ≠ "") {v : Value}
    (hv : v ≠ .null) :
    let counted := fun name => countedColumn? (valueCounts .column name).text
    let tested := testedColumn? (compile true defaultItem [empty.byColumn column v]).whereText
    counted column = some column ∧ tested = some (Column.stored column)
      ∧ (counted column = tested ↔ lower column = column)
      ∧ (lower column ≠ column → ∀ d, Codec.Written d → cell column d = none)
      ∧ counted (Column.stored column) = tested := by
  intro counted tested
  have hcounted : ∀ name, counted name = some name := countedColumn?_valueCounts
  have htested : tested = some (Column.stored column) := testedColumn?_byColumn true hcolumn hv
  refine ⟨hcounted column, htested, ?_, ?_, ?_⟩
  · rw [hcounted, htested, Option.some.injEq, ← Column.stored_eq_self_iff, eq_comm]
  · intro hcase d hd
    rw [Option.eq_none_iff_forall_ne_some]
    intro w hcell
    exact hcase ((Column.stored_eq_self_iff column).mp (hd.stored_eq hcell))
  · rw [hcounted, htested]

/-- The purpose of a server, whose name is not in lower case. -/
theorem counted_tested_purpose :
    let counted := fun name => countedColumn? (valueCounts .column name).text
    let tested := testedColumn?
      (compile true defaultItem [empty.byColumn "serverPurpose" (.text "web")]).whereText
    counted "serverPurpose" = some "serverPurpose"
      ∧ tested = some (Column.stored "serverPurpose")
      ∧ (counted "serverPurpose" = tested ↔ lower "serverPurpose" = "serverPurpose")
      ∧ (lower "serverPurpose" ≠ "serverPurpose" →
        ∀ d, Codec.Written d → cell "serverPurpose" d = none)
      ∧ counted (Column.stored "serverPurpose") = tested :=
  counted_tested_iff (by decide) Value.noConfusion

/-- The values of a server's purpose are counted in one column and tested in another. -/
theorem purpose_counted_elsewhere :
    let counted := countedColumn? (valueCounts .column "serverPurpose").text
    let tested := testedColumn?
      (compile true defaultItem [empty.byColumn "serverPurpose" (.text "web")]).whereText
    counted = some "serverPurpose" ∧ tested = some "server_purpose" ∧ counted ≠ tested := by
  intro counted tested
  have hcounted : counted = some "serverPurpose" := countedColumn?_valueCounts _
  have htested : tested = some "server_purpose" := by
    have hstored : Column.stored "serverPurpose" = "server_purpose" := by decide +kernel
    rw [← hstored]
    exact testedColumn?_byColumn true (by decide) Value.noConfusion
  refine ⟨hcounted, htested, ?_⟩
  rw [hcounted, htested]
  decide

end SheetRecall.Query
