import SheetRecall.Proofs.Column.Stored
import SheetRecall.Proofs.Filter.Conditions
import SheetRecall.Proofs.Grounding.Shape

/-!
# Kinds of Grounded Criteria

A criterion is applied under one key.  The key of a tag is its name, the key of a column is its name
behind the mark of columns, and the compiler takes the kind back from the key.  So the kind survives
unless the name of a tag itself bears the mark: such a tag has the key of a column.

## Main statements
- `applied_compiles`: what the key of an applied criterion compiles to, with a value.
- `marked_tag_compiles_to_column`: a tag that bears the mark, and the column that is asked for.
-/

namespace SheetRecall

/-- The tags and columns have names, and the columns go by those they are stored under. -/
structure Catalog.Stored (catalog : Catalog) : Prop where
  tags : ∀ name ∈ catalog.tags, name ≠ ""
  columns : ∀ name ∈ catalog.columns, name ≠ "" ∧ Column.stored name = name

namespace Grounding

open SheetRecall.Filter SheetRecall.Reply

/-! ## What a key addresses -/

/-- What the compiler makes of a field, if its kind is told. -/
def targetOf : Catalog.Kind → String → Target
  | .tag => .tag
  | .column => .column

/-- The predicate of a kind: the tag holds the value, or the column equals it. -/
def predicateOf : Catalog.Kind → String → String → Predicate
  | .tag => .tagContains
  | .column => .columnEquals

theorem predicate_targetOf (kind : Catalog.Kind) (name : String) (v : Value) (parameter : String) :
    Condition.predicate ⟨targetOf kind name, v⟩ parameter = predicateOf kind name parameter := by
  cases kind <;> rfl

/-- The criterion is on a tag whose name is the mark of columns and a column. -/
def Applied.Marked (a : Applied) (column : String) : Prop :=
  a.kind = .tag ∧ a.name = columnMark ++ column

/-- A key addresses the field that it was made for, unless that is a tag that bears the mark. -/
theorem target?_key {a : Applied} (hnamed : a.name ≠ "")
    (hstored : a.kind = .column → Column.stored a.name = a.name)
    (hplain : ∀ column, ¬a.Marked column) (normalize : Bool) :
    target? normalize a.key = some (targetOf a.kind a.name) := by
  obtain ⟨kind, name, value, importance, fieldConfidence, valueConfidence⟩ := a
  cases kind with
  | tag =>
    have hkey : ∀ column, name ≠ columnMark ++ column := fun column h => hplain column ⟨rfl, h⟩
    exact (target?_plain normalize hkey).trans (if_neg hnamed)
  | column =>
    -- a stored name is the stored form of itself, so normalizing it once more changes nothing
    have hname : columnName normalize name = name := by
      cases normalize with
      | false => rfl
      | true => exact hstored rfl
    have htarget := (target?_marked normalize name).trans (if_neg hnamed)
    rw [hname] at htarget
    exact htarget

/-- A tag that bears the mark has the key of the column behind the mark. -/
theorem Applied.Marked.target?_key {a : Applied} {column : String} (h : a.Marked column)
    (normalize : Bool) :
    target? normalize a.key
      = if column = "" then none else some (.column (columnName normalize column)) := by
  obtain ⟨kind, name, value, importance, fieldConfidence, valueConfidence⟩ := a
  obtain ⟨rfl, rfl⟩ := h
  exact target?_marked normalize column

/-! ## What is asked for -/

/-- A match that is located has the name of a field, and that of a column is a stored one. -/
theorem named_of_locate? {catalog : Catalog} (hcatalog : catalog.Stored) {found : FieldMatch}
    {kind : Catalog.Kind} {name : String} (h : locate? catalog found = some (kind, name)) :
    name ≠ "" ∧ (kind = .column → Column.stored name = name) := by
  obtain ⟨hmem, -⟩ := mem_names_of_locate? h
  cases kind with
  | tag => exact ⟨hcatalog.tags name hmem, fun h => by cases h⟩
  | column =>
    obtain ⟨hnamed, hstored⟩ := hcatalog.columns name hmem
    exact ⟨hnamed, fun _ => hstored⟩

/-- A key that addresses nothing compiles to nothing. -/
theorem compile_of_target?_eq_none {normalize : Bool} {key : String}
    (h : target? normalize key = none) (v : Value) (item : String) :
    (compile normalize item [⟨[(key, v)]⟩]).clause = none := by
  have hcondition : condition? normalize (key, v) = none := by
    rw [condition?_eq_none_iff]
    rintro ⟨-, hne, hmark⟩
    exact ((target?_eq_none_iff normalize key).mp h).elim hne hmark
  have hgroups : conditionGroups normalize [⟨[(key, v)]⟩] = [] := by
    simp [conditionGroups, conditions, hcondition]
  rw [compile_eq_compileGroups, compileGroups_clause, if_pos hgroups]

theorem filterOf_singleton (a : Applied) : filterOf [a] = ⟨[(a.key, .text a.value)]⟩ := rfl

/-- **An applied criterion asks for a field of its own kind, unless it is a tag that bears the mark
of columns.**  Let a match be located in a catalog of stored names, as a field of some kind.  The
key of the criterion that is applied with it compiles, with any value but null, to the one predicate
of that kind on that field, and its parameter is the value.  A tag that bears the mark compiles to
the predicate on the column behind the mark instead, and to none if there is nothing behind it. -/
theorem applied_compiles {catalog : Catalog} (hcatalog : catalog.Stored) {found : FieldMatch}
    {a : Applied} (hlocated : locate? catalog found = some (a.kind, a.name)) {v : Value}
    (hvalue : v ≠ .null) (normalize : Bool) (item : String) :
    let compiled := compile normalize item [⟨[(a.key, v)]⟩]
    let parameter := parameterName 0
    ((∀ column, ¬a.Marked column) →
        compiled.clause = some ⟨[[predicateOf a.kind a.name parameter]]⟩
          ∧ compiled.parameters = [(parameter, v)])
      ∧ (∀ column, a.Marked column → column ≠ "" →
        compiled.clause = some ⟨[[.columnEquals (columnName normalize column) parameter]]⟩
          ∧ compiled.parameters = [(parameter, v)])
      ∧ (a.Marked "" → compiled.clause = none) := by
  intro compiled parameter
  obtain ⟨hnamed, hstored⟩ := named_of_locate? hcatalog hlocated
  refine ⟨fun hplain => ?_, fun column hmarked hcolumn => ?_, fun hmarked => ?_⟩
  · obtain ⟨hclause, hparameters⟩ :=
      compile_singleton hvalue (target?_key hnamed hstored hplain normalize) item
    rw [predicate_targetOf] at hclause
    exact ⟨hclause, hparameters⟩
  · exact compile_singleton hvalue ((hmarked.target?_key normalize).trans (if_neg hcolumn)) item
  · exact compile_of_target?_eq_none (hmarked.target?_key normalize) _ item

/-- The match of the name `Status` is located as the column `status`, and asks for that column. -/
theorem applied_compiles_status :
    let a : Applied := ⟨.column, "status", "Running", 5, 0.9, 0.9⟩
    let compiled := compile true "c" [filterOf [a]]
    locate? ⟨["env"], ["status"]⟩ ⟨"data", "Status", 0.9, ""⟩ = some (a.kind, a.name)
      ∧ compiled.clause = some ⟨[[.columnEquals "status" (parameterName 0)]]⟩
      ∧ compiled.parameters = [(parameterName 0, .text "Running")] := by
  intro a compiled
  have hstored : Catalog.Stored ⟨["env"], ["status"]⟩ := ⟨by decide, by decide +kernel⟩
  have hlocated : locate? ⟨["env"], ["status"]⟩ ⟨"data", "Status", 0.9, ""⟩
      = some (a.kind, a.name) := by decide +kernel
  have hplain : ∀ column, ¬a.Marked column := fun column h => by cases h.1
  have hcompiled : compiled = compile true "c" [⟨[(a.key, .text a.value)]⟩] := by
    rw [← filterOf_singleton]
  rw [hcompiled]
  exact ⟨hlocated, (applied_compiles hstored hlocated (by simp) true "c").1 hplain⟩

/-- The tag `data.env` is located as a tag, and its criterion asks for the column `env`: not for a
tag at all. -/
theorem marked_tag_compiles_to_column :
    let a : Applied := ⟨.tag, "data.env", "x", 5, 0.9, 0.9⟩
    let compiled := compile true "c" [filterOf [a]]
    Catalog.Stored ⟨["data.env"], []⟩
      ∧ locate? ⟨["data.env"], []⟩ ⟨"tag", "data.env", 0.9, ""⟩ = some (a.kind, a.name)
      ∧ compiled.clause = some ⟨[[.columnEquals "env" "@p_0"]]⟩
      ∧ ∀ parameter, compiled.clause ≠ some ⟨[[predicateOf a.kind a.name parameter]]⟩ := by
  intro a compiled
  have hclause : compiled.clause = some ⟨[[.columnEquals "env" "@p_0"]]⟩ := by decide +kernel
  refine ⟨⟨by decide, by decide⟩, by decide +kernel, hclause, fun parameter h => ?_⟩
  rw [hclause] at h
  simp [a, predicateOf] at h

end Grounding

end SheetRecall
