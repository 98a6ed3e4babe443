import Mathlib.Data.List.Forall2
import SheetRecall.Proofs.Filter.Conditions
import SheetRecall.Query.Statement

/-!
# Queries Do Not Depend on Values

Whatever filters compare with is bound to a parameter, so it cannot show in the text of a query.
This is a statement about two runs: filters that have the same keys, and null in the same places,
give the same text and the same parameter names, and the runs differ in nothing but what is bound.

## The two runs side by side
- `SameForm`: the filters that are compared, pair by pair.
- `SameTarget`: what is left of the form behind the first step.  Conditions with one target are
  written alike, whatever their values are.

Each step of the compiler carries such a relation from its input to its output, from the single
pair (`condition?_sameForm`) through the groups (`conditionGroups_sameForm`) to the numbered
clause (`numberedGroups_congr`).

## Main statement
`queries_differ_in_values_only`, for the list query and for the similarity query.
-/

namespace SheetRecall

namespace Filter

/-! ## Filters of one form -/

/-- The pairs have one key, and both values are null or neither is. -/
def SameFormPair (pair other : String × Value) : Prop :=
  pair.1 = other.1 ∧ (pair.2 = .null ↔ other.2 = .null)

/-- The filters have the same keys in the same order, and null in the same places. -/
def SameForm (f g : Filter) : Prop := List.Forall₂ SameFormPair f.pairs g.pairs

/-- The conditions address the same tag or column. -/
def SameTarget (c d : Condition) : Prop := c.target = d.target

/-- Pairs of one form give conditions with one target, or no conditions. -/
theorem condition?_sameForm (normalize : Bool) {pair other : String × Value}
    (h : SameFormPair pair other) :
    Option.Rel SameTarget (condition? normalize pair) (condition? normalize other) := by
  obtain ⟨hkey, hnull⟩ := h
  by_cases hpair : pair.2 = .null
  · -- neither pair asks for anything
    have hunused : ¬ Usable pair := fun husable => husable.1 hpair
    have hother : ¬ Usable other := fun husable => husable.1 (hnull.mp hpair)
    rw [(condition?_eq_none_iff normalize pair).mpr hunused,
      (condition?_eq_none_iff normalize other).mpr hother]
    exact .none
  · -- both ask for something, and the key they share settles for what
    have hother : other.2 ≠ .null := mt hnull.mpr hpair
    rw [condition?_of_ne_null normalize hpair, condition?_of_ne_null normalize hother, hkey]
    cases target? normalize other.1 with
    | none => exact .none
    | some target => exact .some rfl

theorem conditions_sameForm (normalize : Bool) {f g : Filter} (h : SameForm f g) :
    List.Forall₂ SameTarget (conditions normalize f) (conditions normalize g) := by
  apply List.rel_filterMap _ h
  intro pair other hsame
  exact condition?_sameForm normalize hsame

/-- Filters of one form give groups of conditions with the same targets. -/
theorem conditionGroups_sameForm (normalize : Bool) {filters others : List Filter}
    (h : List.Forall₂ SameForm filters others) :
    List.Forall₂ (List.Forall₂ SameTarget) (conditionGroups normalize filters)
      (conditionGroups normalize others) := by
  apply List.rel_filter
  · -- a group is dropped in both runs or in neither
    intro group other hgroup
    cases hgroup <;> simp
  · apply List.rel_map _ h
    intro f g hsame
    exact conditions_sameForm normalize hsame

/-! ## What is written and what is bound -/

/-- The predicate of a condition does not depend on the condition's value. -/
theorem predicate_congr {c d : Condition} (h : SameTarget c d) (parameter : String) :
    c.predicate parameter = d.predicate parameter := by
  unfold Condition.predicate
  rw [h]

/-- Conditions with the same targets are numbered alike. -/
theorem numbered_congr {cs ds : List Condition} (h : List.Forall₂ SameTarget cs ds)
    (first : Nat) : numbered first cs = numbered first ds := by
  induction h generalizing first with
  | nil => rfl
  | cons hsame _ ih => rw [numbered, numbered, predicate_congr hsame, ih]

theorem numberedGroups_congr {groups others : List (List Condition)}
    (h : List.Forall₂ (List.Forall₂ SameTarget) groups others) (first : Nat) :
    numberedGroups first groups = numberedGroups first others := by
  induction h generalizing first with
  | nil => rfl
  | cons hsame _ ih =>
    rw [numberedGroups, numberedGroups, numbered_congr hsame, hsame.length_eq, ih]

/-- Filters of one form compile to one clause. -/
theorem compile_clause_sameForm (normalize : Bool) (item : String) {filters others : List Filter}
    (h : List.Forall₂ SameForm filters others) :
    (compile normalize item filters).clause = (compile normalize item others).clause := by
  have hgroups := conditionGroups_sameForm normalize h
  have hnil : conditionGroups normalize filters = [] ↔ conditionGroups normalize others = [] := by
    rw [← List.length_eq_zero_iff, ← List.length_eq_zero_iff, hgroups.length_eq]
  rw [compile_eq_compileGroups, compile_eq_compileGroups, compileGroups_clause,
    compileGroups_clause, numberedGroups_congr hgroups, if_congr hnil rfl rfl]

/-- Filters of one form name the same parameters. -/
theorem compile_names_sameForm (normalize : Bool) (item : String) {filters others : List Filter}
    (h : List.Forall₂ SameForm filters others) :
    (compile normalize item filters).parameters.map (·.1)
      = (compile normalize item others).parameters.map (·.1) := by
  -- the names are those in the clause
  rw [← compile_clause_parameters, ← compile_clause_parameters,
    compile_clause_sameForm normalize item h]

theorem whereText_sameForm (normalize : Bool) (item : String) {filters others : List Filter}
    (h : List.Forall₂ SameForm filters others) :
    (compile normalize item filters).whereText = (compile normalize item others).whereText := by
  rw [Compiled.whereText, Compiled.whereText, compile_item, compile_item,
    compile_clause_sameForm normalize item h]

instance : DecidablePred Usable := fun pair =>
  decidable_of_iff (pair.2.isNull = false ∧ pair.1 ≠ "" ∧ pair.1 ≠ columnMark) <| by
    rw [Usable, ne_eq pair.2, ← isNull_eq_true_iff, Bool.not_eq_true]

/-- The values of the usable pairs of all filters, in order. -/
def usableValues (filters : List Filter) : List Value :=
  ((filters.flatMap (·.pairs)).filter fun pair => Usable pair).map (·.2)

theorem parametersFrom_value (first : Nat) (conditions : List Condition) :
    (parametersFrom first conditions).map (·.2) = conditions.map (·.value) := by
  induction conditions generalizing first with
  | nil => rfl
  | cons c rest ih => rw [parametersFrom, List.map_cons, List.map_cons, ih]

/-- A condition has the value of its pair. -/
theorem condition?_value (normalize : Bool) (pair : String × Value) :
    (condition? normalize pair).map (·.value) = if Usable pair then some pair.2 else none := by
  -- an unusable pair makes no condition; a usable one makes a condition on its own value
  split
  case isFalse hunused =>
    rw [(condition?_eq_none_iff normalize pair).mpr hunused]
    rfl
  case isTrue husable =>
    have hsome : condition? normalize pair ≠ none := by
      rw [ne_eq, condition?_eq_none_iff, not_not]
      exact husable
    obtain ⟨c, hc⟩ := Option.ne_none_iff_exists'.mp hsome
    rw [hc]
    rw [condition?_of_ne_null normalize husable.1, Option.map_eq_some_iff] at hc
    obtain ⟨target, -, rfl⟩ := hc
    rfl

/-- **What is bound are the values of the usable pairs**, in order. -/
theorem compile_values (normalize : Bool) (item : String) (filters : List Filter) :
    (compile normalize item filters).parameters.map (·.2) = usableValues filters := by
  have hflat : (conditionGroups normalize filters).flatten
      = (filters.flatMap (·.pairs)).filterMap (condition? normalize) := by
    rw [conditionGroups, List.flatten_filter_not_isEmpty, List.filterMap_flatMap]
    rfl
  rw [compile_eq_compileGroups, compileGroups_parameters, parametersFrom_value, hflat,
    List.map_filterMap, usableValues, ← List.filterMap_eq_map, List.filterMap_filter]
  simp only [condition?_value, Function.comp_apply, decide_eq_true_eq]

end Filter

namespace Query

open SheetRecall.Filter

/-! ## Queries -/

/-- The statements have one text and name the same parameters. -/
def Statement.DiffersInValuesOnly (s t : Statement) : Prop :=
  s.text = t.text ∧ s.parameters.map (·.1) = t.parameters.map (·.1)

theorem list_sameForm (normalize : Bool) (item : String) {filters others : List Filter}
    (h : List.Forall₂ SameForm filters others) (codec : Codec) (limit limit' : Value)
    (withVectors : Bool) :
    (list codec (compile normalize item filters) limit withVectors).DiffersInValuesOnly
      (list codec (compile normalize item others) limit' withVectors) := by
  constructor
  · unfold list
    simp only [compile_item, whereText_sameForm normalize item h]
  · exact congrArg (limitParameter :: ·) (compile_names_sameForm normalize item h)

theorem similarity_sameForm (normalize : Bool) (item : String) {filters others : List Filter}
    (h : List.Forall₂ SameForm filters others) (codec : Codec) (vector vector' : List Float)
    (limit limit' : Value) (withVectors : Bool) :
    (similarity codec (compile normalize item filters) vector limit
        withVectors).DiffersInValuesOnly
      (similarity codec (compile normalize item others) vector' limit' withVectors) := by
  constructor
  · unfold similarity
    simp only [compile_item, whereText_sameForm normalize item h]
  · exact congrArg (limitParameter :: vectorParameter :: ·)
      (compile_names_sameForm normalize item h)

/-- **The values of filters cannot influence the text of a query.**  For every name of the
documents, every codec and either choice of vectors, two lists of filters of one form give one text
and the same parameter names, in the list query and in the similarity query, and whatever the limits
and the vectors of the two runs are.  What is bound in a run, behind the limit and the vector, are
the values of the usable pairs of its filters, in order. -/
theorem queries_differ_in_values_only (normalize : Bool) (item : String)
    {filters others : List Filter} (h : List.Forall₂ SameForm filters others) (codec : Codec)
    (withVectors : Bool) :
    let listQuery := fun fs limit => list codec (compile normalize item fs) limit withVectors
    let similarityQuery := fun fs vector limit =>
      similarity codec (compile normalize item fs) vector limit withVectors
    (∀ limit limit', (listQuery filters limit).DiffersInValuesOnly (listQuery others limit'))
      ∧ (∀ vector vector' limit limit',
        (similarityQuery filters vector limit).DiffersInValuesOnly
          (similarityQuery others vector' limit'))
      ∧ ∀ fs limit vector,
        (listQuery fs limit).parameters.map (·.2) = limit :: usableValues fs
          ∧ (similarityQuery fs vector limit).parameters.map (·.2)
            = limit :: .list (vector.map .float) :: usableValues fs := by
  intro listQuery similarityQuery
  refine ⟨?_, ?_, ?_⟩
  · intro limit limit'
    exact list_sameForm normalize item h codec limit limit' withVectors
  · intro vector vector' limit limit'
    exact similarity_sameForm normalize item h codec vector vector' limit limit' withVectors
  · intro fs limit vector
    have hvalues := compile_values normalize item fs
    constructor
    · exact congrArg (limit :: ·) hvalues
    · exact congrArg (limit :: Value.list (vector.map .float) :: ·) hvalues

/-- A text that tries to end the condition and a list in the places of a harmless text and a number
leave the text of both queries as it is; what they are is bound behind the limit. -/
theorem hostile_values_bound :
    let filters : List Filter :=
      [⟨[("env", .text "prod"), ("data.Region", .null), ("data.", .int 1)]⟩,
        ⟨[("data.cpuCount", .int 4)]⟩]
    let others : List Filter :=
      [⟨[("env", .text "x\") OR (1 = 1 --"), ("data.Region", .null), ("data.", .text "y")]⟩,
        ⟨[("data.cpuCount", .list [.text "@p_0"])]⟩]
    let listQuery := fun fs =>
      list (Codec.tabular {}) (compile true "c" fs) (.int 5) false
    let similarityQuery := fun fs =>
      similarity (Codec.tabular {}) (compile true "c" fs) [0.5] (.int 5) false
    List.Forall₂ SameForm filters others
      ∧ (listQuery filters).DiffersInValuesOnly (listQuery others)
      ∧ (similarityQuery filters).DiffersInValuesOnly (similarityQuery others)
      ∧ (listQuery others).parameters.map (·.2)
        = [.int 5, .text "x\") OR (1 = 1 --", .list [.text "@p_0"]] := by
  intro filters others listQuery similarityQuery
  have hform : List.Forall₂ SameForm filters others := by
    refine .cons (.cons ⟨rfl, ?_⟩ (.cons ⟨rfl, ?_⟩ (.cons ⟨rfl, ?_⟩ .nil)))
      (.cons (.cons ⟨rfl, ?_⟩ .nil) .nil)
    all_goals simp
  obtain ⟨hlist, hsimilarity, hvalues⟩ :=
    queries_differ_in_values_only true "c" hform (Codec.tabular {}) false
  have husable : usableValues others = [.text "x\") OR (1 = 1 --", .list [.text "@p_0"]] := rfl
  refine ⟨hform, hlist _ _, hsimilarity _ _ _ _, ?_⟩
  rw [← husable]
  exact (hvalues others (.int 5) []).1

end Query

end SheetRecall
