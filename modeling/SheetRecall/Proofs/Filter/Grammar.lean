import Mathlib.Data.List.Basic
import SheetRecall.Proofs.Filter.Conditions
import SheetRecall.Proofs.Text.Lines

/-!
# The Grammar of Conditions

A reader of the text that a clause is written as, from left to right: conjunctions between
parentheses, joined by ` OR `; predicates joined by ` AND `; a property name between double quotes,
in which a backslash stands before a character of the name and the first bare quote ends it; then
the name of a parameter.

## Main statement
The reader gets back exactly the clause that was written, whatever the names of tags and columns
hold (`readCondition?_render`), so no name can end its quotes early or pass for a part of the
clause.  Each level carries the text that follows it: a name is read up to its closing quote, a
predicate up to a character that belongs to no parameter name.
-/

namespace SheetRecall.Filter

open SheetRecall.Text SheetRecall.Query

/-! ## Names -/

/-- The characters of identifiers and of parameter names. -/
def isNameChar (c : Char) : Bool := c.isAlphanum || c == '_'

/-- A name that needs no quotes. -/
def IsIdentifier (name : String) : Prop := name ≠ "" ∧ ∀ c ∈ name.toList, isNameChar c = true

/-- The name of a parameter: the sign `@` and a word. -/
def IsPlaceholder (name : String) : Prop :=
  ∃ word, name.toList = '@' :: word ∧ ∀ c ∈ word, isNameChar c = true

/-- The text does not go on with a character of a name. -/
def EndsName (rest : List Char) : Prop := rest.head?.all (fun c => !isNameChar c) = true

/-! ## The reader -/

/-- A property name behind its opening quote, and what follows its closing quote. -/
def readName? : List Char → Option (List Char × List Char)
  | [] => none
  | '"' :: rest => some ([], rest)
  | '\\' :: c :: rest => (readName? rest).map fun (name, left) => (c :: name, left)
  | c :: rest => (readName? rest).map fun (name, left) => (c :: name, left)

/-- The path of a property inside a part of the document, and what follows it. -/
def readPath? (item part : String) (cs : List Char) : Option (String × List Char) := do
  let rest ← dropWord? (item.toList ++ '.' :: part.toList ++ ['[', '"']) cs
  let (name, rest) ← readName? rest
  let rest ← dropWord? [']'] rest
  some (String.ofList name, rest)

/-- The name of a parameter, and what follows it. -/
def readParameter? : List Char → Option (String × List Char)
  | '@' :: rest =>
    some (String.ofList ('@' :: rest.takeWhile isNameChar), rest.dropWhile isNameChar)
  | _ => none

/-- The word that opens a predicate on a tag. -/
def tagOpening : List Char := "ARRAY_CONTAINS(".toList

/-- A predicate, and what follows it. -/
def readPredicate? (item : String) (cs : List Char) : Option (Predicate × List Char) :=
  match dropWord? tagOpening cs with
  | some rest => do
    let (key, rest) ← readPath? item Part.tags rest
    let rest ← dropWord? ", ".toList rest
    let (parameter, rest) ← readParameter? rest
    let rest ← dropWord? ")".toList rest
    some (.tagContains key parameter, rest)
  | none => do
    let (column, rest) ← readPath? item Part.data cs
    let rest ← dropWord? " = ".toList rest
    let (parameter, rest) ← readParameter? rest
    some (.columnEquals column parameter, rest)

/-- Items with a word between each two, and what follows the last one.  The number of steps bounds
the number of items. -/
def readJoined? (word : List Char) (readItem? : List Char → Option (α × List Char)) :
    Nat → List Char → Option (List α × List Char)
  | 0, _ => none
  | steps + 1, cs => do
    let (x, rest) ← readItem? cs
    match dropWord? word rest with
    | none => some ([x], rest)
    | some rest => (readJoined? word readItem? steps rest).map fun (xs, left) => (x :: xs, left)

/-- A conjunction between its parentheses, and what follows it. -/
def readConjunction? (item : String) (cs : List Char) : Option (List Predicate × List Char) := do
  let rest ← dropWord? "(".toList cs
  let (predicates, rest) ← readJoined? " AND ".toList (readPredicate? item) rest.length rest
  let rest ← dropWord? ")".toList rest
  some (predicates, rest)

/-- The clause of a whole condition, with no text left over. -/
def readCondition? (item : String) (text : String) : Option Clause := do
  let rest ← dropWord? "WHERE ".toList text.toList
  let (alternatives, rest) ← readJoined? " OR ".toList (readConjunction? item) rest.length rest
  if rest.isEmpty then some ⟨alternatives⟩ else none

/-! ## Names are read back -/

theorem escapeName_cons (c : Char) (name : List Char) :
    escapeName (c :: name)
      = (if c = '\\' ∨ c = '"' then ['\\', c] else [c]) ++ escapeName name := by
  simp [escapeName]

/-- The escaped name ends at the first bare quote, and nowhere before. -/
theorem readName?_escapeName (name rest : List Char) :
    readName? (escapeName name ++ '"' :: rest) = some (name, rest) := by
  induction name with
  | nil => rfl
  | cons c name ih =>
    rw [escapeName_cons, List.append_assoc]
    by_cases hslash : c = '\\'
    · subst hslash
      simp [readName?, ih]
    · by_cases hquote : c = '"'
      · subst hquote
        simp [readName?, ih]
      · simp [hslash, hquote, readName?, ih]

private theorem toList_propertyPath (item part name : String) :
    (propertyPath item part name).toList
      = (item.toList ++ '.' :: part.toList ++ ['[', '"'])
        ++ (escapeName name.toList ++ '"' :: ([']'] ++ [])) := by
  simp [propertyPath, quoteName]

theorem readPath?_propertyPath (item part name : String) (rest : List Char) :
    readPath? item part ((propertyPath item part name).toList ++ rest) = some (name, rest) := by
  have hassoc : (propertyPath item part name).toList ++ rest
      = (item.toList ++ '.' :: part.toList ++ ['[', '"'])
        ++ (escapeName name.toList ++ '"' :: ([']'] ++ rest)) := by
    simp [toList_propertyPath]
  rw [hassoc]
  simp only [readPath?, dropWord?_append, Option.bind_eq_bind, Option.bind_some,
    readName?_escapeName, String.ofList_toList]

/-- The name of a parameter is read back, if no character of a name follows it. -/
theorem readParameter?_append {name : String} (hname : IsPlaceholder name) {rest : List Char}
    (hrest : EndsName rest) : readParameter? (name.toList ++ rest) = some (name, rest) := by
  obtain ⟨word, hlist, hword⟩ := hname
  have hnil : rest.takeWhile isNameChar = [] ∧ rest.dropWhile isNameChar = rest := by
    cases rest with
    | nil => exact ⟨rfl, rfl⟩
    | cons c rest =>
      have hc : isNameChar c = false := by simpa [EndsName] using hrest
      simp [hc]
  rw [hlist, List.cons_append, readParameter?, List.takeWhile_append_of_pos hword,
    List.dropWhile_append_of_pos hword, hnil.1, hnil.2, List.append_nil, ← hlist,
    String.ofList_toList]

/-! ## Predicates are read back -/

theorem Predicate.render_tagContains (item key parameter : String) :
    (tagContains key parameter).render item
      = "ARRAY_CONTAINS(" ++ propertyPath item Part.tags key ++ ", " ++ parameter ++ ")" := rfl

theorem Predicate.render_columnEquals (item column parameter : String) :
    (columnEquals column parameter).render item
      = propertyPath item Part.data column ++ " = " ++ parameter := rfl

/-- A word of letters and a mark does not begin a text that has another mark behind its first
letters. -/
theorem dropWord?_eq_none {letters word : List Char} {mark other : Char}
    (hletters : ∀ c ∈ letters, isNameChar c = true) (hmark : isNameChar mark = false)
    (hword : ∀ c ∈ word, isNameChar c = true) (hother : isNameChar other = false)
    (hne : mark ≠ other) (rest : List Char) :
    dropWord? (letters ++ [mark]) (word ++ other :: rest) = none := by
  rw [Option.eq_none_iff_forall_ne_some]
  intro left h
  -- both sides are cut behind their first letters
  have hcut := congrArg (List.dropWhile isNameChar) (eq_append_of_dropWord? h)
  rw [List.append_assoc, List.dropWhile_append_of_pos hword, List.dropWhile_append_of_pos hletters,
    List.singleton_append, List.dropWhile_cons_of_neg (by simp [hother]),
    List.dropWhile_cons_of_neg (by simp [hmark])] at hcut
  exact hne (List.cons.inj hcut).1.symm

/-- Helper: the word that opens a predicate on a tag ends with its parenthesis. -/
private theorem tagOpening_eq : tagOpening = "ARRAY_CONTAINS".toList ++ ['('] := by
  decide

/-- An identifier is not the beginning of the word that opens a predicate on a tag: the parenthesis
of that word belongs to no identifier. -/
theorem dropWord?_tagOpening_identifier {item : String} (hitem : IsIdentifier item)
    (rest : List Char) : dropWord? tagOpening (item.toList ++ '.' :: rest) = none := by
  have hletters : ∀ c ∈ "ARRAY_CONTAINS".toList, isNameChar c = true :=
    List.all_eq_true.mp (by decide)
  rw [tagOpening_eq]
  exact dropWord?_eq_none hletters rfl hitem.2 rfl (by decide) rest

/-- A predicate is read back, if no character of a name follows it. -/
theorem readPredicate?_render {item : String} (hitem : IsIdentifier item) (p : Predicate)
    (hp : IsPlaceholder p.parameter) {rest : List Char} (hrest : EndsName rest) :
    readPredicate? item ((p.render item).toList ++ rest) = some (p, rest) := by
  cases p with
  | tagContains key parameter =>
    -- the closing parenthesis ends the name of the parameter
    have hclosed : EndsName (")".toList ++ rest) := rfl
    have hname : IsPlaceholder parameter := hp
    have hread := readParameter?_append hname hclosed
    have hlist : ((Predicate.tagContains key parameter).render item).toList ++ rest
        = tagOpening ++ ((propertyPath item Part.tags key).toList
          ++ (", ".toList ++ (parameter.toList ++ (")".toList ++ rest)))) := by
      rw [Predicate.render_tagContains]
      simp only [String.toList_append, List.append_assoc]
      rfl
    rw [hlist]
    simp only [readPredicate?, dropWord?_append, readPath?_propertyPath, Option.bind_eq_bind,
      Option.bind_some, hread]
  | columnEquals column parameter =>
    have hlist : ((Predicate.columnEquals column parameter).render item).toList ++ rest
        = (propertyPath item Part.data column).toList
          ++ (" = ".toList ++ (parameter.toList ++ rest)) := by
      rw [Predicate.render_columnEquals]
      simp only [String.toList_append, List.append_assoc]
    have hname : IsPlaceholder parameter := hp
    have hread := readParameter?_append hname hrest
    -- the word that opens a predicate on a tag is tried first and does not match
    have hnone : dropWord? tagOpening ((propertyPath item Part.data column).toList
        ++ (" = ".toList ++ (parameter.toList ++ rest))) = none := by
      simp only [toList_propertyPath, List.append_assoc, List.cons_append]
      exact dropWord?_tagOpening_identifier hitem _
    rw [hlist, readPredicate?, hnone]
    simp only [readPath?_propertyPath, dropWord?_append, Option.bind_eq_bind, Option.bind_some,
      hread]

/-! ## Joined items are read back -/

/-- Joined items that are not empty have at least as many characters as there are items. -/
theorem length_le_length_intercalate (word : List Char) (pieces : List (List Char))
    (h : ∀ piece ∈ pieces, piece ≠ []) : pieces.length ≤ (word.intercalate pieces).length := by
  induction pieces with
  | nil => simp
  | cons piece rest ih =>
    have hpiece : 0 < piece.length := List.length_pos_iff.mpr (h piece List.mem_cons_self)
    have hrest := ih fun q hq => h q (List.mem_cons_of_mem piece hq)
    cases rest with
    | nil =>
      rw [List.intercalate_singleton]
      exact hpiece
    | cons next more =>
      -- the joining words only add characters
      rw [List.intercalate_cons_cons]
      simp only [List.length_append, List.length_cons] at hrest ⊢
      omega

/-- Joined items are read back, if each item is read back before what may follow it, and the text
after the last one does not go on with the joining word. -/
theorem readJoined?_intercalate {α : Type} (word after : List Char)
    (readItem? : List Char → Option (α × List Char)) (write : α → List Char)
    (Follows : List Char → Prop) (hword : ∀ rest, Follows (word ++ rest)) (hafter : Follows after)
    (hend : dropWord? word after = none) (steps : Nat) (xs : List α) (hne : xs ≠ [])
    (hread : ∀ x ∈ xs, ∀ rest, Follows rest → readItem? (write x ++ rest) = some (x, rest))
    (hsteps : xs.length ≤ steps) :
    readJoined? word readItem? steps (word.intercalate (xs.map write) ++ after)
      = some (xs, after) := by
  -- the steps are used up item by item, so the induction is on the items
  induction xs generalizing steps with
  | nil => exact absurd rfl hne
  | cons x rest ih =>
    obtain ⟨more, rfl⟩ : ∃ more, steps = more + 1 :=
      ⟨steps - 1, by simp only [List.length_cons] at hsteps; omega⟩
    -- an item is followed by the joining word and another item, or by what stands behind them all
    have hx := hread x List.mem_cons_self
    cases rest with
    | nil =>
      rw [List.map_singleton, List.intercalate_singleton, readJoined?, hx after hafter]
      simp only [Option.bind_eq_bind, Option.bind_some, hend]
    | cons y rest =>
      have hlater := ih more (by simp) (fun z hz => hread z (List.mem_cons_of_mem x hz))
        (by simpa using hsteps)
      rw [List.map_cons, List.map_cons, List.intercalate_cons_cons, List.append_assoc,
        List.append_assoc, readJoined?, hx _ (hword _)]
      rw [List.map_cons] at hlater
      simp only [Option.bind_eq_bind, Option.bind_some, dropWord?_append, hlater, Option.map_some]

/-- Joined items that are each written as something are read back with a step for each character
of the text. -/
theorem readJoined?_length {α : Type} (word after : List Char)
    (readItem? : List Char → Option (α × List Char)) (write : α → List Char)
    (Follows : List Char → Prop) (hword : ∀ rest, Follows (word ++ rest)) (hafter : Follows after)
    (hend : dropWord? word after = none) (xs : List α) (hne : xs ≠ [])
    (hwrite : ∀ x ∈ xs, write x ≠ [])
    (hread : ∀ x ∈ xs, ∀ rest, Follows rest → readItem? (write x ++ rest) = some (x, rest)) :
    readJoined? word readItem? (word.intercalate (xs.map write) ++ after).length
      (word.intercalate (xs.map write) ++ after) = some (xs, after) := by
  have hpieces := length_le_length_intercalate word (xs.map write) (List.forall_mem_map.mpr hwrite)
  rw [List.length_map] at hpieces
  refine readJoined?_intercalate word after readItem? write Follows hword hafter hend _ xs hne
    hread ?_
  rw [List.length_append]
  omega

/-! ## Clauses are read back -/

/-- A clause of the kind that filters compile to: neither it nor a conjunction in it is empty, and
its predicates name parameters. -/
def Clause.WellFormed (clause : Clause) : Prop :=
  clause.alternatives ≠ [] ∧
    ∀ conjunction ∈ clause.alternatives,
      conjunction ≠ [] ∧ ∀ p ∈ conjunction, IsPlaceholder p.parameter

/-- Helper: no predicate is written as nothing. -/
private theorem render_ne_nil (item : String) (p : Predicate) : (p.render item).toList ≠ [] := by
  cases p with
  | tagContains key parameter =>
    rw [Predicate.render_tagContains]
    simp only [String.toList_append]
    simp
  | columnEquals column parameter =>
    rw [Predicate.render_columnEquals]
    simp only [String.toList_append]
    simp

/-- A conjunction is read back, whatever follows its closing parenthesis. -/
theorem readConjunction?_render {item : String} (hitem : IsIdentifier item)
    (predicates : List Predicate) (hne : predicates ≠ [])
    (hnames : ∀ p ∈ predicates, IsPlaceholder p.parameter) (rest : List Char) :
    readConjunction? item ((renderConjunction item predicates).toList ++ rest)
      = some (predicates, rest) := by
  let write : Predicate → List Char := fun p => (p.render item).toList
  -- between the parentheses stand the predicates, joined by a word that ends each of them
  have hlist : (renderConjunction item predicates).toList ++ rest
      = "(".toList ++ (" AND ".toList.intercalate (predicates.map write)
        ++ (")".toList ++ rest)) := by
    rw [renderConjunction]
    simp only [String.toList_append, String.toList_intercalate, List.map_map, List.append_assoc]
    rfl
  have hjoined := readJoined?_length " AND ".toList (")".toList ++ rest)
    (readPredicate? item) write EndsName (fun _ => rfl) rfl rfl predicates hne
    (fun p _ => render_ne_nil item p)
    fun p hp _ hfollows => readPredicate?_render hitem p (hnames p hp) hfollows
  rw [hlist, readConjunction?]
  simp only [dropWord?_append, Option.bind_eq_bind, Option.bind_some, hjoined]

/-- **A condition is read back as the clause that was written**, whatever the names of its tags and
columns hold. -/
theorem readCondition?_render {item : String} (hitem : IsIdentifier item) (clause : Clause)
    (hclause : clause.WellFormed) :
    readCondition? item ("WHERE " ++ clause.render item) = some clause := by
  obtain ⟨hne, hconjunctions⟩ := hclause
  let write : List Predicate → List Char := fun ps => (renderConjunction item ps).toList
  -- behind the opening word stand the conjunctions, joined the same way, and nothing else
  have hlist : ("WHERE " ++ clause.render item).toList
      = "WHERE ".toList ++ (" OR ".toList.intercalate (clause.alternatives.map write) ++ []) := by
    rw [Clause.render]
    simp only [String.toList_append, String.toList_intercalate, List.map_map, List.append_nil]
    rfl
  have hwrite : ∀ ps ∈ clause.alternatives, write ps ≠ [] := by
    intro ps _
    simp [write, renderConjunction]
  have hjoined := readJoined?_length " OR ".toList [] (readConjunction? item) write
    (fun _ => True) (fun _ => trivial) trivial rfl clause.alternatives hne hwrite
    fun ps hps rest _ => readConjunction?_render hitem ps (hconjunctions ps hps).1
      (hconjunctions ps hps).2 rest
  rw [readCondition?, hlist]
  simp only [dropWord?_append, Option.bind_eq_bind, Option.bind_some, hjoined, List.isEmpty_nil,
    if_true]

/-! ## Compiled clauses -/

/-- The names of numbered parameters are names of parameters. -/
theorem isPlaceholder_parameterName (n : Nat) : IsPlaceholder (parameterName n) := by
  refine ⟨'p' :: '_' :: Nat.toDigits 10 n, ?_, ?_⟩
  · rw [parameterName, Nat.toString_eq_ofList_toDigits, String.toList_append]
    simp
  · intro c hc
    rcases List.mem_cons.mp hc with rfl | hc
    · decide
    · rcases List.mem_cons.mp hc with rfl | hc
      · decide
      · have hdigit := Nat.isDigit_of_mem_toDigits (by decide) (by decide) hc
        simp [isNameChar, Char.isAlphanum, hdigit]

/-- Helper: a conjunction that stands among numbered groups is one numbered group. -/
private theorem mem_numberedGroups {first : Nat} {groups : List (List Condition)}
    {conjunction : List Predicate} (h : conjunction ∈ numberedGroups first groups) :
    ∃ n, ∃ group ∈ groups, conjunction = numbered n group := by
  induction groups generalizing first with
  | nil => exact absurd h (by simp [numberedGroups])
  | cons group rest ih =>
    rcases List.mem_cons.mp h with rfl | h
    · exact ⟨first, group, List.mem_cons_self, rfl⟩
    · obtain ⟨n, other, hother, heq⟩ := ih h
      exact ⟨n, other, List.mem_cons_of_mem group hother, heq⟩

/-- The clause that filters compile to is well-formed. -/
theorem wellFormed_of_compile {normalize : Bool} {item : String} {filters : List Filter}
    {clause : Clause} (h : (compile normalize item filters).clause = some clause) :
    clause.WellFormed := by
  rw [compile_eq_compileGroups, compileGroups_clause, Option.ite_none_left_eq_some] at h
  obtain ⟨hne, hclause⟩ := h
  obtain rfl := Option.some.inj hclause
  constructor
  · cases hgroups : conditionGroups normalize filters with
    | nil => exact absurd hgroups hne
    | cons group rest => simp [numberedGroups]
  · -- a conjunction is a numbered group, and no group is empty
    intro conjunction hconjunction
    obtain ⟨n, group, hgroup, rfl⟩ := mem_numberedGroups hconjunction
    have hnames := numbered_parameter n group
    constructor
    · rintro hempty
      have hlength := congrArg List.length hnames
      have hgroupNil : group = [] := by simpa [hempty, eq_comm] using hlength
      simp [conditionGroups, hgroupNil] at hgroup
    · intro p hp
      -- every parameter has the name of a number
      have hmem : p.parameter ∈ (numbered n group).map Predicate.parameter :=
        List.mem_map_of_mem hp
      rw [hnames] at hmem
      obtain ⟨k, -, hk⟩ := List.mem_map.mp hmem
      rw [← hk]
      exact isPlaceholder_parameterName k

end SheetRecall.Filter
