import Mathlib.Data.List.Nodup
import SheetRecall.Proofs.Filter.Grammar
import SheetRecall.Query.Statement

/-!
# Placeholders of Queries

The text of a query holds names only.  A scan from left to right that leaves out quoted names meets
exactly the parameters that are bound, whatever the names of tags and columns hold: a name such as
`@p_0` or `") OR ("` stays inside its quotes.

## Main statement
`compile_text_unambiguous`: the condition is read back as the clause that was compiled, its
parameters are numbered in order, and the placeholders of the list query and of the similarity
query are exactly their bound parameters.
-/

namespace SheetRecall.Query

open SheetRecall.Filter

/-! ## The scan -/

/-- Where a scan of a query stands. -/
inductive ScanPlace where
  | outside
  | quoted
  /-- Behind a backslash inside quotes. -/
  | escaped
  deriving Repr, DecidableEq

/-- The placeholders from some place of a query on, from left to right. -/
def placeholdersFrom : ScanPlace → List Char → List String
  | _, [] => []
  | .outside, c :: rest =>
    if c = '"' then placeholdersFrom .quoted rest
    else if c = '@' then
      String.ofList ('@' :: rest.takeWhile isNameChar) :: placeholdersFrom .outside rest
    else placeholdersFrom .outside rest
  | .quoted, c :: rest =>
    if c = '\\' then placeholdersFrom .escaped rest
    else if c = '"' then placeholdersFrom .outside rest
    else placeholdersFrom .quoted rest
  | .escaped, _ :: rest => placeholdersFrom .quoted rest

/-- The placeholders of a query that stand outside its quoted names. -/
def placeholders (text : String) : List String := placeholdersFrom .outside text.toList

/-- The placeholders of a statement are exactly its bound parameters, whose names differ. -/
def Statement.Closed (s : Statement) : Prop :=
  (∀ name, name ∈ placeholders s.text ↔ name ∈ s.parameters.map (·.1)) ∧
    (s.parameters.map (·.1)).Nodup

/-- A text without quotes and placeholders. -/
def isPlain (cs : List Char) : Bool := cs.all fun c => c ≠ '"' && c ≠ '@'

/-! ## The scan of the parts of a query -/

/-- The scan passes over plain text. -/
theorem placeholdersFrom_plain {cs : List Char} (h : isPlain cs = true) (rest : List Char) :
    placeholdersFrom .outside (cs ++ rest) = placeholdersFrom .outside rest := by
  induction cs with
  | nil => rfl
  | cons c cs ih =>
    simp only [isPlain, List.all_cons, Bool.and_eq_true, decide_eq_true_eq] at h
    obtain ⟨⟨hquote, hsign⟩, hrest⟩ := h
    rw [List.cons_append, placeholdersFrom, if_neg hquote, if_neg hsign]
    exact ih hrest

theorem isPlain_identifier {item : String} (hitem : IsIdentifier item) :
    isPlain item.toList = true := by
  rw [isPlain, List.all_eq_true]
  intro c hc
  have hname := hitem.2 c hc
  simp only [Bool.and_eq_true, decide_eq_true_eq]
  constructor
  · rintro rfl
    exact absurd hname (by decide)
  · rintro rfl
    exact absurd hname (by decide)

/-- The scan passes over a quoted name, whatever the name is. -/
theorem placeholdersFrom_escapeName (name rest : List Char) :
    placeholdersFrom .quoted (escapeName name ++ '"' :: rest) = placeholdersFrom .outside rest := by
  induction name with
  | nil => rfl
  | cons c name ih =>
    rw [escapeName_cons, List.append_assoc]
    -- a backslash and a quote are escaped, other characters stand for themselves
    by_cases hslash : c = '\\'
    · subst hslash
      simp [placeholdersFrom, ih]
    · by_cases hquote : c = '"'
      · subst hquote
        simp [placeholdersFrom, ih]
      · simp [hslash, hquote, placeholdersFrom, ih]

/-- The scan meets a placeholder, if no character of a name follows it. -/
theorem placeholdersFrom_placeholder {name : String} (hname : IsPlaceholder name)
    {rest : List Char} (hrest : EndsName rest) :
    placeholdersFrom .outside (name.toList ++ rest) = name :: placeholdersFrom .outside rest := by
  have hread := readParameter?_append hname hrest
  obtain ⟨word, hlist, hword⟩ := hname
  -- the word behind the sign holds no quote and no other sign
  have hplain : isPlain word = true := by
    have hidentifier : word = [] ∨ IsIdentifier (String.ofList word) := by
      by_cases hempty : word = []
      · exact Or.inl hempty
      · exact Or.inr ⟨by simpa using hempty, by simpa using hword⟩
    rcases hidentifier with rfl | hidentifier
    · rfl
    · simpa using isPlain_identifier hidentifier
  rw [hlist, List.cons_append] at hread ⊢
  obtain ⟨hread, -⟩ := Prod.mk.inj (Option.some.inj hread)
  rw [placeholdersFrom, if_neg (by decide), if_pos rfl, hread, placeholdersFrom_plain hplain]

/-- The scan passes over the path of a property, whatever the name of the property is. -/
theorem placeholdersFrom_propertyPath {item part : String} (hitem : isPlain item.toList = true)
    (hpart : isPlain part.toList = true) (name : String) (rest : List Char) :
    placeholdersFrom .outside ((propertyPath item part name).toList ++ rest)
      = placeholdersFrom .outside rest := by
  -- only the name of the property stands between quotes
  have hlist : (propertyPath item part name).toList ++ rest
      = item.toList ++ (".".toList ++ (part.toList ++ ("[".toList
        ++ ('"' :: (escapeName name.toList ++ '"' :: ("]".toList ++ rest)))))) := by
    simp [propertyPath, quoteName]
  have hdot : isPlain ".".toList = true := by decide
  have hopen : isPlain "[".toList = true := by decide
  have hclose : isPlain "]".toList = true := by decide
  rw [hlist, placeholdersFrom_plain hitem, placeholdersFrom_plain hdot,
    placeholdersFrom_plain hpart, placeholdersFrom_plain hopen, placeholdersFrom, if_pos rfl,
    placeholdersFrom_escapeName, placeholdersFrom_plain hclose]

/-- The scan of joined items meets what it meets in each of them. -/
theorem placeholdersFrom_intercalate {α : Type} (word after : List Char) (write : α → List Char)
    (names : α → List String) (Follows : List Char → Prop) (hplain : isPlain word = true)
    (hword : ∀ rest, Follows (word ++ rest)) (hafter : Follows after) (xs : List α)
    (hscan : ∀ x ∈ xs, ∀ rest, Follows rest →
      placeholdersFrom .outside (write x ++ rest) = names x ++ placeholdersFrom .outside rest) :
    placeholdersFrom .outside (word.intercalate (xs.map write) ++ after)
      = xs.flatMap names ++ placeholdersFrom .outside after := by
  -- the scanner is outside of a name after each item, so the items are scanned one by one
  induction xs with
  | nil => simp
  | cons x rest ih =>
    have hx := hscan x List.mem_cons_self
    cases rest with
    | nil =>
      rw [List.map_singleton, List.intercalate_singleton, hx after hafter]
      simp
    | cons y rest =>
      -- the joining word follows the first item and is passed over
      have hlater := ih fun z hz => hscan z (List.mem_cons_of_mem x hz)
      rw [List.map_cons] at hlater
      rw [List.map_cons, List.map_cons, List.intercalate_cons_cons, List.append_assoc,
        List.append_assoc, hx _ (hword _), placeholdersFrom_plain hplain, hlater]
      simp only [List.flatMap_cons, List.append_assoc]

/-! ## The scan of a condition -/

/-- The scan meets the parameter of a predicate. -/
theorem placeholdersFrom_predicate {item : String} (hitem : isPlain item.toList = true)
    (p : Predicate) (hp : IsPlaceholder p.parameter) {rest : List Char} (hrest : EndsName rest) :
    placeholdersFrom .outside ((p.render item).toList ++ rest)
      = [p.parameter] ++ placeholdersFrom .outside rest := by
  cases p with
  | tagContains key parameter =>
    -- the closing parenthesis ends the name of the parameter
    have hclosed : EndsName (")".toList ++ rest) := rfl
    have hname : IsPlaceholder parameter := hp
    have hscan := placeholdersFrom_placeholder hname hclosed
    rw [Predicate.render_tagContains]
    simp only [String.toList_append, List.append_assoc]
    rw [placeholdersFrom_plain (by decide), placeholdersFrom_propertyPath hitem (by decide),
      placeholdersFrom_plain (by decide), hscan, placeholdersFrom_plain (by decide)]
    rfl
  -- the predicate on a column ends with its parameter, so what follows must end the name
  | columnEquals column parameter =>
    have hname : IsPlaceholder parameter := hp
    have hscan := placeholdersFrom_placeholder hname hrest
    rw [Predicate.render_columnEquals]
    simp only [String.toList_append, List.append_assoc]
    rw [placeholdersFrom_propertyPath hitem (by decide), placeholdersFrom_plain (by decide), hscan]
    rfl

theorem placeholdersFrom_conjunction {item : String} (hitem : isPlain item.toList = true)
    (predicates : List Predicate) (hnames : ∀ p ∈ predicates, IsPlaceholder p.parameter)
    (rest : List Char) :
    placeholdersFrom .outside ((renderConjunction item predicates).toList ++ rest)
      = predicates.map Predicate.parameter ++ placeholdersFrom .outside rest := by
  have hjoined := placeholdersFrom_intercalate " AND ".toList (")".toList ++ rest)
    (fun p : Predicate => (p.render item).toList) (fun p => [p.parameter]) EndsName (by decide)
    (fun _ => rfl) rfl predicates
    fun p hp _ hfollows => placeholdersFrom_predicate hitem p (hnames p hp) hfollows
  rw [renderConjunction]
  simp only [String.toList_append, String.toList_intercalate, List.map_map, List.append_assoc]
  rw [placeholdersFrom_plain (by decide)]
  refine hjoined.trans ?_
  rw [placeholdersFrom_plain (by decide), ← List.map_eq_flatMap]

/-- The scan meets the parameters of a condition in their order. -/
theorem placeholdersFrom_clause {item : String} (hitem : isPlain item.toList = true)
    (clause : Clause) (hclause : clause.WellFormed) (rest : List Char) :
    placeholdersFrom .outside ((clause.render item).toList ++ rest)
      = clause.parameters ++ placeholdersFrom .outside rest := by
  have hjoined := placeholdersFrom_intercalate " OR ".toList rest
    (fun ps => (renderConjunction item ps).toList) (fun ps => ps.map Predicate.parameter)
    (fun _ => True) (by decide) (fun _ => trivial) trivial clause.alternatives
    fun ps hps more _ => placeholdersFrom_conjunction hitem ps (hclause.2 ps hps).2 more
  rw [Clause.render]
  simp only [String.toList_intercalate, List.map_map]
  exact hjoined

/-! ## The scan of whole queries -/

private theorem isPlain_part (codec : Codec) :
    ∀ part ∈ codec.parts, isPlain part.toList = true := by
  unfold Codec.parts
  split <;> decide

/-- The scan passes over the columns of a query. -/
theorem placeholdersFrom_columns {item : String} (hitem : isPlain item.toList = true)
    (codec : Codec) (withVectors : Bool) (rest : List Char) :
    placeholdersFrom .outside ((codec.columns item withVectors).toList ++ rest)
      = placeholdersFrom .outside rest := by
  -- the selected parts are plain texts joined by a plain comma, so none of them has a placeholder
  have hjoined := placeholdersFrom_intercalate ",".toList rest
    (fun part => (Codec.partPath item part).toList) (fun _ => []) (fun _ => True) (by decide)
    (fun _ => trivial) trivial (codec.selected withVectors)
    (by
      intro part hpart more _
      have hplain := isPlain_part codec part (List.mem_of_mem_filter hpart)
      unfold Codec.partPath
      split
      · exact placeholdersFrom_plain hplain more
      · simp only [String.toList_append, List.append_assoc]
        rw [placeholdersFrom_plain hitem, placeholdersFrom_plain (by decide),
          placeholdersFrom_plain hplain]
        rfl)
  rw [Codec.columns]
  simp only [String.toList_intercalate, List.map_map]
  refine hjoined.trans ?_
  simp

/-- The text of a condition is empty exactly when everything matches; otherwise the scan meets the
parameters in their order. -/
theorem placeholdersFrom_whereText {item : String} (hitem : isPlain item.toList = true)
    (normalize : Bool) (filters : List Filter) (rest : List Char) :
    placeholdersFrom .outside ((compile normalize item filters).whereText.toList ++ rest)
      = (compile normalize item filters).parameters.map (·.1)
        ++ placeholdersFrom .outside rest := by
  -- without a clause there are neither placeholders nor parameters
  have hnames := compile_clause_parameters normalize item filters
  unfold Compiled.whereText
  split
  case h_1 hclause =>
    rw [hclause] at hnames
    simp [← hnames]
  case h_2 clause hclause =>
    rw [hclause] at hnames
    have hwell := wellFormed_of_compile hclause
    rw [compile_item]
    simp only [String.toList_append, List.append_assoc]
    rw [placeholdersFrom_plain (by decide), placeholdersFrom_clause hitem clause hwell, ← hnames]
    rfl

/-- Helper: the condition with a blank in front, as the list query has it. -/
private theorem placeholdersFrom_spaced {item : String} (hitem : isPlain item.toList = true)
    (normalize : Bool) (filters : List Filter) :
    let compiled := compile normalize item filters
    placeholdersFrom .outside
        (if compiled.whereText.isEmpty then "" else " " ++ compiled.whereText).toList
      = compiled.parameters.map (·.1) := by
  intro compiled
  have hscan := placeholdersFrom_whereText hitem normalize filters []
  simp only [List.append_nil] at hscan
  split
  case isTrue hempty =>
    rw [String.isEmpty_iff] at hempty
    simp only [compiled] at hempty
    rw [hempty] at hscan
    simpa [placeholdersFrom] using hscan
  case isFalse =>
    rw [String.toList_append, placeholdersFrom_plain (by decide), hscan]
    simp [placeholdersFrom, compiled]

theorem isPlaceholder_limitParameter : IsPlaceholder limitParameter :=
  ⟨"limit".toList, rfl, List.all_eq_true.mp (by decide)⟩

theorem isPlaceholder_vectorParameter : IsPlaceholder vectorParameter :=
  ⟨"queryEmbedding".toList, rfl, List.all_eq_true.mp (by decide)⟩

private theorem list_text (codec : Codec) (compiled : Compiled) (limit : Value)
    (withVectors : Bool) :
    (list codec compiled limit withVectors).text
      = "SELECT TOP " ++ limitParameter ++ " " ++ codec.columns compiled.item withVectors
        ++ " FROM " ++ compiled.item
        ++ (if compiled.whereText.isEmpty then "" else " " ++ compiled.whereText) := rfl

/-- The list query names the limit and then the parameters of its filters. -/
theorem placeholders_list {item : String} (hitem : IsIdentifier item) (normalize : Bool)
    (filters : List Filter) (codec : Codec) (limit : Value) (withVectors : Bool) :
    let compiled := compile normalize item filters
    placeholders (list codec compiled limit withVectors).text
      = limitParameter :: compiled.parameters.map (·.1) := by
  intro compiled
  have hplain := isPlain_identifier hitem
  have hends : ∀ rest, EndsName (" ".toList ++ rest) := fun _ => rfl
  rw [placeholders, list_text]
  simp only [compiled, compile_item, String.toList_append, List.append_assoc]
  -- piece by piece from the front of the query
  rw [placeholdersFrom_plain (by decide),
    placeholdersFrom_placeholder isPlaceholder_limitParameter (hends _),
    placeholdersFrom_plain (by decide), placeholdersFrom_columns hplain,
    placeholdersFrom_plain (by decide), placeholdersFrom_plain hplain,
    placeholdersFrom_spaced hplain]

private theorem similarity_text (codec : Codec) (compiled : Compiled) (vector : List Float)
    (limit : Value) (withVectors : Bool) :
    (similarity codec compiled vector limit withVectors).text
      = "SELECT TOP " ++ limitParameter ++ " " ++ codec.columns compiled.item withVectors ++ ", "
        ++ distanceText compiled.item ++ " AS " ++ scoreName ++ " FROM " ++ compiled.item ++ " "
        ++ (if compiled.whereText.isEmpty then "" else compiled.whereText ++ " ")
        ++ "ORDER BY " ++ distanceText compiled.item := rfl

private theorem distanceText_eq (item : String) :
    distanceText item
      = "VectorDistance(" ++ item ++ "." ++ Part.embedding ++ ", " ++ vectorParameter ++ ")" := rfl

/-- The scan meets the vector of the query in a distance. -/
theorem placeholdersFrom_distanceText {item : String} (hitem : isPlain item.toList = true)
    (rest : List Char) :
    placeholdersFrom .outside ((distanceText item).toList ++ rest)
      = vectorParameter :: placeholdersFrom .outside rest := by
  have hclosed : EndsName (")".toList ++ rest) := rfl
  rw [distanceText_eq]
  simp only [String.toList_append, List.append_assoc]
  rw [placeholdersFrom_plain (by decide), placeholdersFrom_plain hitem,
    placeholdersFrom_plain (by decide), placeholdersFrom_plain (by decide),
    placeholdersFrom_plain (by decide),
    placeholdersFrom_placeholder isPlaceholder_vectorParameter hclosed,
    placeholdersFrom_plain (by decide)]

/-- Helper: the condition with a blank behind it, as the similarity query has it. -/
private theorem placeholdersFrom_trailed {item : String} (hitem : isPlain item.toList = true)
    (normalize : Bool) (filters : List Filter) (rest : List Char) :
    let compiled := compile normalize item filters
    placeholdersFrom .outside
        ((if compiled.whereText.isEmpty then "" else compiled.whereText ++ " ").toList ++ rest)
      = compiled.parameters.map (·.1) ++ placeholdersFrom .outside rest := by
  intro compiled
  split
  case isTrue hempty =>
    have hscan := placeholdersFrom_whereText hitem normalize filters rest
    rw [String.isEmpty_iff] at hempty
    simp only [compiled] at hempty
    rwa [hempty] at hscan
  case isFalse =>
    rw [String.toList_append, List.append_assoc, placeholdersFrom_whereText hitem,
      placeholdersFrom_plain (by decide)]

/-- The similarity query names the limit, the vector, the parameters of its filters and the vector
once more. -/
theorem placeholders_similarity {item : String} (hitem : IsIdentifier item) (normalize : Bool)
    (filters : List Filter) (codec : Codec) (vector : List Float) (limit : Value)
    (withVectors : Bool) :
    let compiled := compile normalize item filters
    placeholders (similarity codec compiled vector limit withVectors).text
      = limitParameter :: vectorParameter
        :: (compiled.parameters.map (·.1) ++ [vectorParameter]) := by
  intro compiled
  have hplain := isPlain_identifier hitem
  have hends : ∀ rest, EndsName (" ".toList ++ rest) := fun _ => rfl
  have hlast := placeholdersFrom_distanceText hplain []
  rw [List.append_nil] at hlast
  rw [placeholders, similarity_text]
  simp only [compiled, compile_item, String.toList_append, List.append_assoc]
  -- piece by piece from the front of the query
  rw [placeholdersFrom_plain (by decide),
    placeholdersFrom_placeholder isPlaceholder_limitParameter (hends _),
    placeholdersFrom_plain (by decide), placeholdersFrom_columns hplain,
    placeholdersFrom_plain (by decide), placeholdersFrom_distanceText hplain,
    placeholdersFrom_plain (by decide), placeholdersFrom_plain (by decide),
    placeholdersFrom_plain (by decide), placeholdersFrom_plain hplain,
    placeholdersFrom_plain (by decide), placeholdersFrom_trailed hplain,
    placeholdersFrom_plain (by decide), hlast]
  rfl

/-! ## Parameters of whole queries -/

/-- Helper: a name that does not begin as numbered parameters do is none of them. -/
private theorem ne_parameterName {name : String} (h : "@p_".toList.isPrefixOf name.toList = false)
    (n : Nat) : name ≠ parameterName n := by
  rintro rfl
  rw [parameterName, String.toList_append] at h
  simp at h

/-- The names of the parameters of compiled filters differ. -/
theorem compile_parameters_nodup (normalize : Bool) (item : String) (filters : List Filter) :
    ((compile normalize item filters).parameters.map (·.1)).Nodup := by
  rw [compile_parameters_name]
  exact List.nodup_range.map fun _ _ h => parameterName_inj.mp h

/-- Helper: a name that does not begin as numbered parameters do is bound by no filter. -/
private theorem notMem_parameters (name : String)
    (h : "@p_".toList.isPrefixOf name.toList = false) (normalize : Bool) (item : String)
    (filters : List Filter) :
    name ∉ (compile normalize item filters).parameters.map (·.1) := by
  rw [compile_parameters_name]
  intro hmem
  obtain ⟨n, -, hn⟩ := List.mem_map.mp hmem
  exact ne_parameterName h n hn.symm

private theorem similarity_names (codec : Codec) (compiled : Compiled) (vector : List Float)
    (limit : Value) (withVectors : Bool) :
    (similarity codec compiled vector limit withVectors).parameters.map (·.1)
      = limitParameter :: vectorParameter :: compiled.parameters.map (·.1) := rfl

theorem closed_list {item : String} (hitem : IsIdentifier item) (normalize : Bool)
    (filters : List Filter) (codec : Codec) (limit : Value) (withVectors : Bool) :
    (list codec (compile normalize item filters) limit withVectors).Closed := by
  constructor
  · intro name
    rw [placeholders_list hitem]
    rfl
  · have hlimit := notMem_parameters limitParameter (by decide) normalize item filters
    exact List.nodup_cons.mpr ⟨hlimit, compile_parameters_nodup normalize item filters⟩

theorem closed_similarity {item : String} (hitem : IsIdentifier item) (normalize : Bool)
    (filters : List Filter) (codec : Codec) (vector : List Float) (limit : Value)
    (withVectors : Bool) :
    (similarity codec (compile normalize item filters) vector limit withVectors).Closed := by
  constructor
  · intro name
    rw [placeholders_similarity hitem]
    rw [similarity_names]
    -- the second mention of the vector adds no name
    simp only [List.mem_cons, List.mem_append, List.not_mem_nil, or_false]
    tauto
  · -- the two reserved names differ, and no filter takes either of them
    have hlimit := notMem_parameters limitParameter (by decide) normalize item filters
    have hvector := notMem_parameters vectorParameter (by decide) normalize item filters
    have hne : limitParameter ≠ vectorParameter := by decide
    refine List.nodup_cons.mpr ⟨?_, List.nodup_cons.mpr
      ⟨hvector, compile_parameters_nodup normalize item filters⟩⟩
    intro hmem
    rcases List.mem_cons.mp hmem with heq | hmem
    · exact hne heq
    · exact hlimit hmem

/-! ## Main statement -/

/-- **The text of compiled filters says what they are, and nothing else.**  With an identifier for
the documents, and whatever strings the keys of the filters are:

* the condition is read back as the clause that was compiled, with no text left over, and no other
  well-formed clause is written the same way;
* the condition names the parameters `@p_0`, `@p_1`, … in this order, each once, and these are the
  names that are bound;
* the placeholders of the list query and of the similarity query outside quoted names are their
  bound parameters, whose names differ. -/
theorem compile_text_unambiguous {item : String} (hitem : IsIdentifier item) (normalize : Bool)
    (filters : List Filter) :
    let compiled := compile normalize item filters
    let names := (List.range compiled.parameters.length).map parameterName
    (∀ clause, compiled.clause = some clause →
      readCondition? item compiled.whereText = some clause ∧ clause.WellFormed
        ∧ (∀ other : Clause, other.WellFormed → other.render item = clause.render item →
          other = clause)
        ∧ clause.parameters = names ∧ placeholders compiled.whereText = names)
      ∧ compiled.parameters.map (·.1) = names ∧ names.Nodup
      ∧ ∀ (codec : Codec) (vector : List Float) (limit : Value) (withVectors : Bool),
        (list codec compiled limit withVectors).Closed
          ∧ (list codec compiled limit withVectors).parameters.map (·.1)
            = limitParameter :: names
          ∧ (similarity codec compiled vector limit withVectors).Closed
          ∧ (similarity codec compiled vector limit withVectors).parameters.map (·.1)
            = limitParameter :: vectorParameter :: names := by
  intro compiled names
  have hnames : compiled.parameters.map (·.1) = names :=
    compile_parameters_name normalize item filters
  have hnodup := compile_parameters_nodup normalize item filters
  refine ⟨?_, hnames, hnames ▸ hnodup, ?_⟩
  · intro clause hclause
    have hwell : clause.WellFormed := wellFormed_of_compile hclause
    have htext : compiled.whereText = "WHERE " ++ clause.render item := by
      rw [Compiled.whereText, hclause, compile_item]
    have hparameters := compile_clause_parameters normalize item filters
    have hplaceholders :=
      placeholdersFrom_whereText (isPlain_identifier hitem) normalize filters []
    have hread := readCondition?_render hitem clause hwell
    refine ⟨by rw [htext, hread], hwell, ?_, ?_, ?_⟩
    · -- a clause that is written the same way is read back as both
      intro other hother hsame
      have hotherRead := readCondition?_render hitem other hother
      rw [hsame, hread] at hotherRead
      exact (Option.some.inj hotherRead).symm
    · -- the placeholders stand in the order in which their parameters are bound
      simp only [compiled] at hclause
      rw [hclause] at hparameters
      exact hparameters.trans hnames
    · rw [List.append_nil, placeholdersFrom, List.append_nil] at hplaceholders
      exact hplaceholders.trans hnames
  · intro codec vector limit withVectors
    refine ⟨closed_list hitem normalize filters codec limit withVectors, ?_,
      closed_similarity hitem normalize filters codec vector limit withVectors, ?_⟩
    · rw [← hnames]
      rfl
    · rw [similarity_names, hnames]

/-- The name `c` is an identifier, and conditions on names that try to close their quotes are read
back as conditions on those names. -/
theorem hostile_text_unambiguous :
    IsIdentifier "c" ∧
      let filters : List Filter := [⟨[("\\\") OR (@p_0", .int 1)]⟩, ⟨[("data.@p_0\"", .text "x")]⟩]
      let clause : Clause :=
        ⟨[[.tagContains "\\\") OR (@p_0" "@p_0"], [.columnEquals "@p_0\"" "@p_1"]]⟩
      readCondition? "c" (compile false "c" filters).whereText = some clause := by
  have hitem : IsIdentifier "c" := ⟨by decide, List.all_eq_true.mp (by decide)⟩
  have hmain := (compile_text_unambiguous hitem false
    [⟨[("\\\") OR (@p_0", .int 1)]⟩, ⟨[("data.@p_0\"", .text "x")]⟩]).1
  exact ⟨hitem, (hmain _ (by decide +kernel)).1⟩

end SheetRecall.Query
