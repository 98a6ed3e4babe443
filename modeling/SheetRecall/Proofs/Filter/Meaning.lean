import SheetRecall.Proofs.Filter.Conditions

/-!
# What Compiled Filters Mean

Compiling keeps the meaning of filters.  A compiled list of filters is evaluated on a document
with each parameter looked up by its name; a list of filters is read directly, pair by pair.  The
two agree for every interpretation of the two atomic predicates.

## The two sides
- `Compiled.Holds`: the clause is evaluated, no clause holds of every document.
- `Selects`: some filter that asks for something has all its usable pairs satisfied, or no filter
  asks for anything.

## The way between them
Both are compared with the groups of conditions: evaluation of the numbered clause is evaluation
of its conditions (`numberedGroups_holds_iff`), and a condition holds exactly when the pair that
it comes from does (`Condition.holds_iff_pairHolds`).
-/

namespace SheetRecall.Filter

universe u

/-- What the two atomic predicates say about documents of some kind. -/
structure Interpretation (δ : Type u) where
  /-- The values of a tag hold a value. -/
  tagContains : String → Value → δ → Prop
  /-- The value of a column equals a value. -/
  columnEquals : String → Value → δ → Prop

variable {δ : Type u} (I : Interpretation δ)

/-! ## Evaluation of what is compiled -/

/-- A predicate holds of a document: its parameter has a value, and the atomic predicate holds of
that value. -/
def Predicate.Holds (parameters : List (String × Value)) (d : δ) : Predicate → Prop
  | .tagContains key parameter =>
    ∃ v, parameters.lookup parameter = some v ∧ I.tagContains key v d
  | .columnEquals column parameter =>
    ∃ v, parameters.lookup parameter = some v ∧ I.columnEquals column v d

/-- A clause holds of a document: all predicates of one of its conjunctions do. -/
def Clause.Holds (parameters : List (String × Value)) (clause : Clause) (d : δ) : Prop :=
  ∃ conjunction ∈ clause.alternatives, ∀ p ∈ conjunction, p.Holds I parameters d

/-- Compiled filters hold of a document: their clause does, or they have none. -/
def Compiled.Holds (compiled : Compiled) (d : δ) : Prop :=
  match compiled.clause with
  | none => True
  | some clause => clause.Holds I compiled.parameters d

/-! ## Direct reading of filters -/

/-- A pair holds of a document: a marked key names a column, any other key a tag. -/
inductive PairHolds (normalize : Bool) (d : δ) : String × Value → Prop where
  | column (name : String) (value : Value)
      (h : I.columnEquals (columnName normalize name) value d) :
      PairHolds normalize d (columnMark ++ name, value)
  | tag (key : String) (value : Value) (hkey : ∀ name, key ≠ columnMark ++ name)
      (h : I.tagContains key value d) :
      PairHolds normalize d (key, value)

/-- A filter asks for something: it has a usable pair. -/
def Asks (f : Filter) : Prop := ∃ pair ∈ f.pairs, Usable pair

/-- A filter that asks for something is met by a document: all its usable pairs hold. -/
def Met (normalize : Bool) (f : Filter) (d : δ) : Prop :=
  f.Asks ∧ ∀ pair ∈ f.pairs, Usable pair → PairHolds I normalize d pair

/-- A list of filters selects a document: no filter asks for anything, or one is met. -/
def Selects (normalize : Bool) (filters : List Filter) (d : δ) : Prop :=
  (∀ f ∈ filters, ¬ f.Asks) ∨ ∃ f ∈ filters, f.Met I normalize d

/-- A single filter selects what all its usable pairs hold of. -/
theorem selects_filter_iff (normalize : Bool) (f : Filter) (d : δ) :
    Selects I normalize [f] d
      ↔ ∀ pair ∈ f.pairs, Usable pair → PairHolds I normalize d pair := by
  simp only [Selects, List.mem_singleton, forall_eq, exists_eq_left, Met]
  by_cases hasks : f.Asks
  · simp [hasks]
  · simp only [hasks, not_false_eq_true, true_or, true_iff]
    exact fun pair hpair husable => absurd ⟨pair, hpair, husable⟩ hasks

/-- A filter with one usable pair selects what the pair holds of. -/
theorem selects_singleton_iff (normalize : Bool) (d : δ) {pair : String × Value}
    (husable : Usable pair) :
    Selects I normalize [⟨[pair]⟩] d ↔ PairHolds I normalize d pair := by
  rw [selects_filter_iff]
  simp [husable]

/-! ## Conditions between the two -/

/-- A condition holds of a document. -/
def Condition.Holds (d : δ) (c : Condition) : Prop :=
  match c.target with
  | .tag key => I.tagContains key c.value d
  | .column name => I.columnEquals name c.value d

/-- Helper: a marked pair holds exactly when its column has the value. -/
theorem pairHolds_marked_iff (normalize : Bool) (d : δ) (name : String) (value : Value) :
    PairHolds I normalize d (columnMark ++ name, value)
      ↔ I.columnEquals (columnName normalize name) value d := by
  constructor
  · intro h
    generalize hpair : (columnMark ++ name, value) = pair at h
    cases h with
    | column other v hother =>
      obtain ⟨hname, rfl⟩ := Prod.mk.inj hpair
      rw [(String.append_right_inj columnMark).mp hname]
      exact hother
    | tag key v hkey _ => exact absurd (Prod.mk.inj hpair).1.symm (hkey name)
  · exact PairHolds.column name value

/-- Helper: a pair without the mark holds exactly when its tag has the value. -/
theorem pairHolds_plain_iff (normalize : Bool) (d : δ) {key : String} (value : Value)
    (hkey : ∀ name, key ≠ columnMark ++ name) :
    PairHolds I normalize d (key, value) ↔ I.tagContains key value d := by
  constructor
  · intro h
    generalize hpair : (key, value) = pair at h
    cases h with
    | column name v _ => exact absurd (Prod.mk.inj hpair).1 (hkey name)
    | tag k v _ h =>
      obtain ⟨rfl, rfl⟩ := Prod.mk.inj hpair
      exact h
  · exact PairHolds.tag key value hkey

/-- The condition of a pair holds exactly when the pair does. -/
theorem Condition.holds_iff_pairHolds (normalize : Bool) (d : δ) {pair : String × Value}
    {c : Condition} (h : condition? normalize pair = some c) :
    c.Holds I d ↔ PairHolds I normalize d pair := by
  have husable := usable_of_condition?_eq_some h
  obtain ⟨key, value⟩ := pair
  rw [condition?_of_ne_null normalize husable.1] at h
  obtain ⟨target, htarget, rfl⟩ := Option.map_eq_some_iff.mp h
  -- the mark of columns decides what the condition is about
  by_cases hmarked : ∃ name, key = columnMark ++ name
  · obtain ⟨name, rfl⟩ := hmarked
    rw [target?_marked, Option.ite_none_left_eq_some] at htarget
    obtain rfl := Option.some.inj htarget.2
    rw [pairHolds_marked_iff]
    rfl
  · -- a key without the mark names a tag
    have hplain : ∀ name, key ≠ columnMark ++ name := by
      intro name heq
      exact hmarked ⟨name, heq⟩
    rw [target?_plain normalize hplain, Option.ite_none_left_eq_some] at htarget
    obtain rfl := Option.some.inj htarget.2
    rw [pairHolds_plain_iff I normalize d value hplain]
    rfl

/-- A filter asks for something exactly when it has conditions. -/
theorem asks_iff_conditions_ne_nil (normalize : Bool) (f : Filter) :
    f.Asks ↔ conditions normalize f ≠ [] := by
  rw [ne_eq, conditions_eq_nil_iff]
  simp only [Asks, not_forall, not_not, exists_prop]

/-- All conditions of a filter hold exactly when all its usable pairs do. -/
theorem conditions_hold_iff (normalize : Bool) (f : Filter) (d : δ) :
    (∀ c ∈ conditions normalize f, c.Holds I d)
      ↔ ∀ pair ∈ f.pairs, Usable pair → PairHolds I normalize d pair := by
  simp only [conditions, List.mem_filterMap]
  constructor
  · intro h pair hpair husable
    cases hc : condition? normalize pair with
    | none => exact absurd husable ((condition?_eq_none_iff normalize pair).mp hc)
    | some c => exact (Condition.holds_iff_pairHolds I normalize d hc).mp (h c ⟨pair, hpair, hc⟩)
  · rintro h c ⟨pair, hpair, hc⟩
    have husable := usable_of_condition?_eq_some hc
    exact (Condition.holds_iff_pairHolds I normalize d hc).mpr (h pair hpair husable)

/-- A filter on one column asks for that column under its stored name. -/
theorem selects_byColumn_iff (normalize : Bool) (d : δ) {column : String} (hcolumn : column ≠ "")
    {v : Value} (hv : v ≠ .null) :
    Selects I normalize [empty.byColumn column v] d
      ↔ I.columnEquals (columnName normalize column) v d := by
  have husable : Usable (columnMark ++ column, v) := by
    refine ⟨hv, ?_, ?_⟩
    · simp [columnMark]
    · rw [ne_eq, String.append_eq_left_iff]
      exact hcolumn
  rw [← pairHolds_marked_iff]
  exact selects_singleton_iff I normalize d husable

/-! ## Numbered conditions -/

/-- The numbered predicates of conditions hold exactly when the conditions do, if each condition
finds its value under its number. -/
theorem numbered_holds_iff (parameters : List (String × Value)) (d : δ) (first : Nat)
    (cs : List Condition) (hbound : Bound parameters first cs) :
    (∀ p ∈ numbered first cs, p.Holds I parameters d) ↔ ∀ c ∈ cs, c.Holds I d := by
  induction cs generalizing first with
  | nil => simp [numbered]
  | cons c rest ih =>
    obtain ⟨hvalue, hrest⟩ := hbound
    -- the first predicate reads the value that is bound under its number
    have hhead : (c.predicate (parameterName first)).Holds I parameters d ↔ c.Holds I d := by
      obtain ⟨target, value⟩ := c
      cases target <;> simp [Condition.predicate, Predicate.Holds, Condition.Holds, hvalue]
    simp only [numbered, List.forall_mem_cons, hhead, ih (first + 1) hrest]

/-- A numbered conjunction holds exactly when all conditions of its group do. -/
theorem numberedGroups_holds_iff (parameters : List (String × Value)) (d : δ) (first : Nat)
    (groups : List (List Condition)) (hbound : Bound parameters first groups.flatten) :
    (∃ conjunction ∈ numberedGroups first groups, ∀ p ∈ conjunction, p.Holds I parameters d)
      ↔ ∃ group ∈ groups, ∀ c ∈ group, c.Holds I d := by
  induction groups generalizing first with
  | nil => simp [numberedGroups]
  | cons group rest ih =>
    rw [List.flatten_cons, bound_append_iff] at hbound
    obtain ⟨hgroup, hrest⟩ := hbound
    simp only [numberedGroups, List.mem_cons, exists_eq_or_imp,
      numbered_holds_iff I parameters d first group hgroup, ih (first + group.length) hrest]

/-! ## Compiling keeps the meaning -/

/-- Helper: a group of conditions that holds is that of a filter that is met. -/
theorem group_holds_iff_met (normalize : Bool) (filters : List Filter) (d : δ) :
    (∃ group ∈ conditionGroups normalize filters, ∀ c ∈ group, c.Holds I d)
      ↔ ∃ f ∈ filters, f.Met I normalize d := by
  simp only [conditionGroups, List.mem_filter, List.mem_map, Met, ← conditions_hold_iff,
    asks_iff_conditions_ne_nil normalize]
  constructor
  · rintro ⟨_, ⟨⟨f, hf, rfl⟩, hne⟩, hholds⟩
    exact ⟨f, hf, by simpa using hne, hholds⟩
  · rintro ⟨f, hf, hne, hholds⟩
    exact ⟨_, ⟨⟨f, hf, rfl⟩, by simpa using hne⟩, hholds⟩

/-- Helper: there are no groups of conditions exactly when no filter asks for anything. -/
theorem conditionGroups_eq_nil_iff (normalize : Bool) (filters : List Filter) :
    conditionGroups normalize filters = [] ↔ ∀ f ∈ filters, ¬ f.Asks := by
  simp only [conditionGroups, List.filter_eq_nil_iff, List.forall_mem_map,
    asks_iff_conditions_ne_nil normalize, ne_eq, not_not]
  simp

/-- Helper: going through the filters pair by pair keeps their meaning. -/
theorem compileGroups_holds_iff (normalize : Bool) (item : String) (filters : List Filter)
    (d : δ) :
    (compileGroups normalize item filters).Holds I d ↔ Selects I normalize filters d := by
  unfold Compiled.Holds Selects
  rw [compileGroups_clause, compileGroups_parameters, ← group_holds_iff_met,
    ← conditionGroups_eq_nil_iff normalize]
  split
  case h_1 hclause =>
    -- without groups the clause is missing and every document is selected
    have hnone : conditionGroups normalize filters = [] := by simpa using hclause
    simp [hnone]
  case h_2 clause hclause =>
    obtain ⟨hne, hclause⟩ := Option.ite_none_left_eq_some.mp hclause
    obtain rfl := Option.some.inj hclause
    -- each conjunction stands for its group, with the values bound from zero on
    simp only [hne, false_or]
    exact numberedGroups_holds_iff I _ d 0 _ (bound_parametersFrom 0 _)

/-- A single filter compiles to the conjunction of its usable pairs. -/
theorem compile_filter_holds_iff (normalize : Bool) (item : String) (f : Filter) (d : δ) :
    (compile normalize item [f]).Holds I d
      ↔ ∀ pair ∈ f.pairs, Usable pair → PairHolds I normalize d pair := by
  rw [compile_eq_compileGroups, compileGroups_holds_iff, selects_filter_iff]

/-- **Compiling keeps the meaning of filters.**  For every interpretation of the atomic predicates,
compiled filters hold of a document exactly when the filters select it; they have no clause exactly
when no filter asks for anything; and the early answer for filters that ask for nothing is the one
that going through all their pairs gives. -/
theorem compile_holds_iff_selects (normalize : Bool) (item : String) (filters : List Filter)
    (d : δ) :
    ((compile normalize item filters).Holds I d ↔ Selects I normalize filters d) ∧
      ((compile normalize item filters).clause = none ↔ ∀ f ∈ filters, ¬ f.Asks) ∧
      compile normalize item filters = compileGroups normalize item filters := by
  have hearly := compile_eq_compileGroups normalize item filters
  refine ⟨?_, ?_, hearly⟩
  · rw [hearly]
    exact compileGroups_holds_iff I normalize item filters d
  · rw [hearly, compileGroups_clause, ← conditionGroups_eq_nil_iff normalize]
    simp

end SheetRecall.Filter
