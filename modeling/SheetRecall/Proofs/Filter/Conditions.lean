import Mathlib.Tactic.ByContra
import Mathlib.Tactic.Tauto
import SheetRecall.Filter.Compile

/-!
# Conditions of Filters

What the steps of the compiler do, one at a time: how a key splits into the mark of columns and
a name, which pairs become conditions, and how the conditions are numbered.

## Keys
A key bears the mark exactly when it is the mark followed by a name (`markedColumn?_eq_some_iff`),
and a pair gives no condition exactly when it is not usable (`condition?_eq_none_iff`).

## Groups
The compiler numbers the conditions of the filters that have any (`conditionGroups`); its two ways
of dropping filters, before and after the conditions are made, come to the same.

## Numbers
Parameter names are injective (`parameterName_inj`), so each condition finds its own value in the
list of parameters (`bound_parametersFrom`).
-/

namespace SheetRecall.Filter

/-! ## Keys -/

/-- A pair asks for something: its value is not null, and its key addresses a tag or a column. -/
def Usable (pair : String × Value) : Prop :=
  pair.2 ≠ .null ∧ pair.1 ≠ "" ∧ pair.1 ≠ columnMark

theorem isNull_eq_true_iff (v : Value) : v.isNull = true ↔ v = .null := by
  cases v <;> simp [Value.isNull]

/-- The mark of columns stands in front of a key exactly when the key is the mark and a name. -/
theorem markedColumn?_eq_some_iff (key column : String) :
    markedColumn? key = some column ↔ key = columnMark ++ column := by
  unfold markedColumn?
  constructor
  · intro h
    split at h
    case isTrue hmark =>
      obtain ⟨rest, hrest⟩ := String.startsWith_string_iff.mp hmark
      -- what is dropped is as long as the mark, so the name is what is left
      have hdrop : (key.drop columnMark.length).copy.toList = rest := by
        rw [String.toList_copy_drop, ← hrest, ← String.length_toList, List.drop_left]
      have hcolumn : column.toList = rest := by
        rw [← hdrop, ← Option.some.inj h]
        rfl
      rw [← String.toList_inj, String.toList_append, hcolumn, hrest]
    case isFalse => exact absurd h (by simp)
  · rintro rfl
    -- the mark is taken off the key that it was put before
    have hmark : columnMark.isPrefixOf (columnMark ++ column) = true :=
      String.startsWith_string_iff.mpr (by simp)
    have hdrop : ((columnMark ++ column).drop columnMark.length).copy = column := by
      rw [← String.toList_inj, String.toList_copy_drop, String.toList_append,
        ← String.length_toList, List.drop_left]
    rw [if_pos hmark]
    exact congrArg some hdrop

/-- A key without the mark is the mark and a name for no name. -/
theorem markedColumn?_eq_none_iff (key : String) :
    markedColumn? key = none ↔ ∀ column, key ≠ columnMark ++ column := by
  constructor
  · intro h column hkey
    rw [(markedColumn?_eq_some_iff key column).mpr hkey] at h
    exact absurd h (by simp)
  · intro h
    cases hkey : markedColumn? key with
    | none => rfl
    | some column => exact absurd ((markedColumn?_eq_some_iff key column).mp hkey) (h column)

/-- A marked key addresses the column that it names, if it names one. -/
theorem target?_marked (normalize : Bool) (column : String) :
    target? normalize (columnMark ++ column)
      = if column = "" then none else some (.column (columnName normalize column)) := by
  simp only [target?, (markedColumn?_eq_some_iff _ column).mpr rfl, String.isEmpty_iff]

theorem target?_plain (normalize : Bool) {key : String}
    (h : ∀ column, key ≠ columnMark ++ column) :
    target? normalize key = if key = "" then none else some (.tag key) := by
  simp only [target?, (markedColumn?_eq_none_iff key).mpr h, String.isEmpty_iff]

/-- A key addresses nothing exactly when it is empty or nothing but the mark. -/
theorem target?_eq_none_iff (normalize : Bool) (key : String) :
    target? normalize key = none ↔ key = "" ∨ key = columnMark := by
  -- the mark alone is a marked key without a name
  by_cases hmarked : ∃ column, key = columnMark ++ column
  · obtain ⟨column, rfl⟩ := hmarked
    rw [target?_marked, String.append_eq_left_iff, String.append_eq_empty_iff]
    have hmark : columnMark ≠ "" := by decide
    simp [hmark]
  · have hplain : ∀ column, key ≠ columnMark ++ column := by
      intro column heq
      exact hmarked ⟨column, heq⟩
    have hne : key ≠ columnMark := by simpa using hplain ""
    rw [target?_plain normalize hplain]
    simp [hne]

/-! ## Conditions -/

/-- The condition of a pair whose value is not null: its target with its value. -/
theorem condition?_of_ne_null (normalize : Bool) {pair : String × Value} (h : pair.2 ≠ .null) :
    condition? normalize pair = (target? normalize pair.1).map fun target => ⟨target, pair.2⟩ := by
  have hnull : ¬ pair.2.isNull = true := mt (isNull_eq_true_iff pair.2).mp h
  simp only [condition?, hnull, Bool.false_eq_true, if_false]

theorem condition?_eq_none_iff (normalize : Bool) (pair : String × Value) :
    condition? normalize pair = none ↔ ¬ Usable pair := by
  unfold Usable
  by_cases hnull : pair.2 = .null
  · simp [condition?, hnull, Value.isNull]
  · rw [condition?_of_ne_null normalize hnull, Option.map_eq_none_iff, target?_eq_none_iff]
    simp only [ne_eq, hnull, not_false_eq_true, true_and]
    tauto

theorem usable_of_condition?_eq_some {normalize : Bool} {pair : String × Value} {c : Condition}
    (h : condition? normalize pair = some c) : Usable pair := by
  by_contra hnot
  rw [(condition?_eq_none_iff normalize pair).mpr hnot] at h
  exact absurd h (by simp)

/-- A filter has no conditions exactly when none of its pairs is usable. -/
theorem conditions_eq_nil_iff (normalize : Bool) (f : Filter) :
    conditions normalize f = [] ↔ ∀ pair ∈ f.pairs, ¬ Usable pair := by
  simp only [conditions, List.filterMap_eq_nil_iff, condition?_eq_none_iff]

/-- A filter that asks for nothing has no conditions, so dropping it first loses none. -/
theorem conditions_eq_nil_of_isEmpty (normalize : Bool) {f : Filter} (h : f.isEmpty = true) :
    conditions normalize f = [] := by
  rw [conditions_eq_nil_iff]
  intro pair hpair husable
  have hnull := List.all_eq_true.mp h pair hpair
  exact husable.1 ((isNull_eq_true_iff pair.2).mp hnull)

/-! ## Groups of conditions -/

/-- The conditions of each filter that has any, in order: what the compiler numbers. -/
def conditionGroups (normalize : Bool) (filters : List Filter) : List (List Condition) :=
  (filters.map (conditions normalize)).filter fun group => !group.isEmpty

/-- Helper: leaving out the filters that ask for nothing changes no group. -/
private theorem groups_of_asking (normalize : Bool) (filters : List Filter) :
    ((filters.filter fun f => !f.isEmpty).map (conditions normalize)).filter
        (fun group => !group.isEmpty)
      = conditionGroups normalize filters := by
  induction filters with
  | nil => rfl
  | cons f rest ih =>
    unfold conditionGroups at ih ⊢
    by_cases hempty : f.isEmpty = true
    · simp [hempty, ih, conditions_eq_nil_of_isEmpty normalize hempty]
    · simp only [Bool.not_eq_true] at hempty
      simp [hempty, List.filter_cons, ih]

/-- The clause and the parameters are those of the groups of conditions. -/
theorem compileGroups_clause (normalize : Bool) (item : String) (filters : List Filter) :
    (compileGroups normalize item filters).clause
      = if conditionGroups normalize filters = [] then none
        else some ⟨numberedGroups 0 (conditionGroups normalize filters)⟩ := by
  simp only [compileGroups, groups_of_asking, List.isEmpty_iff]
  split <;> rfl

theorem compileGroups_parameters (normalize : Bool) (item : String) (filters : List Filter) :
    (compileGroups normalize item filters).parameters
      = parametersFrom 0 (conditionGroups normalize filters).flatten := by
  simp only [compileGroups, groups_of_asking, List.isEmpty_iff]
  split
  case isTrue h => simp [h, Compiled.matchAll, parametersFrom]
  case isFalse => rfl

/-- The early answer for filters that ask for nothing is the one that going through them gives. -/
theorem compile_eq_compileGroups (normalize : Bool) (item : String) (filters : List Filter) :
    compile normalize item filters = compileGroups normalize item filters := by
  unfold compile
  split
  case isFalse => rfl
  case isTrue h =>
    have hnone : (filters.filter fun f => !f.isEmpty) = [] := by
      rw [List.filter_eq_nil_iff]
      intro f hf
      simp [List.all_eq_true.mp h f hf]
    simp [compileGroups, hnone]

/-- A single pair whose key addresses something compiles to one predicate. -/
theorem compile_singleton {normalize : Bool} {key : String} {v : Value} {target : Target}
    (hv : v ≠ .null) (htarget : target? normalize key = some target) (item : String) :
    let compiled := compile normalize item [⟨[(key, v)]⟩]
    compiled.clause = some ⟨[[Condition.predicate ⟨target, v⟩ (parameterName 0)]]⟩
      ∧ compiled.parameters = [(parameterName 0, v)] := by
  intro compiled
  have hcondition : condition? normalize (key, v) = some ⟨target, v⟩ := by
    rw [condition?_of_ne_null normalize hv, htarget]
    rfl
  have hgroups : conditionGroups normalize [⟨[(key, v)]⟩] = [[⟨target, v⟩]] := by
    simp [conditionGroups, conditions, hcondition]
  simp only [compiled]
  rw [compile_eq_compileGroups, compileGroups_clause, compileGroups_parameters, hgroups]
  exact ⟨rfl, rfl⟩

/-! ## Numbers -/

/-- Parameters with different numbers have different names. -/
theorem parameterName_inj {m n : Nat} : parameterName m = parameterName n ↔ m = n := by
  constructor
  · intro h
    have hdigits : toString m = toString n := (String.append_right_inj "@p_").mp h
    rw [Nat.toString_eq_ofList_toDigits, Nat.toString_eq_ofList_toDigits,
      String.ofList_inj] at hdigits
    rw [← Nat.ofDigitChars_ten_toDigits (n := m), hdigits, Nat.ofDigitChars_ten_toDigits]
  · rintro rfl
    rfl

/-- The parameters of a clause, in the order in which its text names them. -/
def Clause.parameters (clause : Clause) : List String :=
  clause.alternatives.flatMap fun predicates => predicates.map Predicate.parameter

/-- Predicates are numbered one after the other. -/
theorem numbered_parameter (first : Nat) (conditions : List Condition) :
    (numbered first conditions).map Predicate.parameter
      = (List.range' first conditions.length).map parameterName := by
  induction conditions generalizing first with
  | nil => rfl
  | cons c rest ih =>
    have hhead : (c.predicate (parameterName first)).parameter = parameterName first := by
      obtain ⟨target, value⟩ := c
      cases target <;> rfl
    simp only [numbered, List.map_cons, hhead, ih (first + 1), List.length_cons, List.range'_succ]

theorem numberedGroups_parameter (first : Nat) (groups : List (List Condition)) :
    Clause.parameters ⟨numberedGroups first groups⟩
      = (List.range' first groups.flatten.length).map parameterName := by
  unfold Clause.parameters
  induction groups generalizing first with
  | nil => rfl
  | cons group rest ih =>
    simp only [numberedGroups, List.flatMap_cons, numbered_parameter, ih (first + group.length),
      List.flatten_cons, List.length_append]
    rw [← List.map_append, List.range'_append_1]

theorem parametersFrom_name (first : Nat) (conditions : List Condition) :
    (parametersFrom first conditions).map (·.1)
      = (List.range' first conditions.length).map parameterName := by
  induction conditions generalizing first with
  | nil => rfl
  | cons c rest ih =>
    simp only [parametersFrom, List.map_cons, ih (first + 1), List.length_cons, List.range'_succ]

theorem compile_parameters_name (normalize : Bool) (item : String) (filters : List Filter) :
    (compile normalize item filters).parameters.map (·.1)
      = (List.range (compile normalize item filters).parameters.length).map parameterName := by
  rw [compile_eq_compileGroups, compileGroups_parameters]
  have hnames := parametersFrom_name 0 (conditionGroups normalize filters).flatten
  have hlength := congrArg List.length hnames
  rw [List.length_map, List.length_map, List.length_range'] at hlength
  rw [hnames, hlength, List.range_eq_range']

/-- The clause of compiled filters names all their parameters, in order. -/
theorem compile_clause_parameters (normalize : Bool) (item : String) (filters : List Filter) :
    ((compile normalize item filters).clause.map Clause.parameters).getD []
      = (compile normalize item filters).parameters.map (·.1) := by
  rw [compile_eq_compileGroups, compileGroups_clause, compileGroups_parameters,
    parametersFrom_name]
  split
  case isTrue hnone => simp [hnone]
  case isFalse => exact numberedGroups_parameter 0 _

theorem compile_item (normalize : Bool) (item : String) (filters : List Filter) :
    (compile normalize item filters).item = item := by
  rw [compile_eq_compileGroups]
  simp only [compileGroups]
  split <;> rfl

/-- The parameters give each of the conditions, numbered from `first` on, its value. -/
def Bound (parameters : List (String × Value)) (first : Nat) : List Condition → Prop
  | [] => True
  | c :: rest =>
    parameters.lookup (parameterName first) = some c.value ∧ Bound parameters (first + 1) rest

/-- A parameter with a smaller number hides none of the later ones. -/
theorem Bound.cons_of_lt {parameters : List (String × Value)} {first n : Nat} {v : Value}
    {conditions : List Condition} (h : Bound parameters first conditions) (hlt : n < first) :
    Bound ((parameterName n, v) :: parameters) first conditions := by
  induction conditions generalizing first with
  | nil => trivial
  | cons c rest ih =>
    obtain ⟨hc, hrest⟩ := h
    have hne : parameterName first ≠ parameterName n := by
      rw [ne_eq, parameterName_inj]
      omega
    refine ⟨?_, ih hrest (by omega)⟩
    rw [List.lookup_cons, beq_eq_false_iff_ne.mpr hne]
    exact hc

/-- The parameters of conditions give each of them its value. -/
theorem bound_parametersFrom (first : Nat) (conditions : List Condition) :
    Bound (parametersFrom first conditions) first conditions := by
  induction conditions generalizing first with
  | nil => trivial
  | cons c rest ih =>
    refine ⟨?_, (ih (first + 1)).cons_of_lt (Nat.lt_succ_self first)⟩
    simp [parametersFrom]

/-- Conditions in two parts are given their values one part after the other. -/
theorem bound_append_iff (parameters : List (String × Value)) (first : Nat)
    (front back : List Condition) :
    Bound parameters first (front ++ back)
      ↔ Bound parameters first front ∧ Bound parameters (first + front.length) back := by
  induction front generalizing first with
  | nil => simp [Bound]
  | cons c rest ih =>
    have hshift : first + (c :: rest).length = first + 1 + rest.length := by
      simp only [List.length_cons]
      omega
    rw [hshift, List.cons_append]
    simp only [Bound, ih (first + 1), and_assoc]

end SheetRecall.Filter
