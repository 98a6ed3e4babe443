import Mathlib.Data.List.Find
import SheetRecall.Proofs.Memory.Discovery

/-!
# Catalogs Are Dictionaries of First Spellings

A catalog is made of the names in a sample, read one after the other.  A name that was met before,
in any case of letters, adds nothing, so of all its spellings only the first one stands.  That makes
a lookup independent of the order in which the names are listed.

## The two sides
- `SeenAs`: how a name was spelled in a list of names when it was met first, if it was met at all.
- `addNames`: how the names of a catalog are gathered.

## Layers
- `Dictionary.add`, `Dictionary.addNames`: one name more, and all the names of a sample.
- `Dictionary.mem_lower_iff`, `Dictionary.seenAs_self`, `Dictionary.seenAs_find?`: what is read off.
- `discovered_dictionary`: the catalog that a memory discovers in an index.
-/

namespace SheetRecall

namespace Catalog

/-! ## Spellings -/

/-- How a name was spelled, in any case of letters, at the first place among the names seen. -/
inductive SeenAs (seen : List String) (name : String) : Option String → Prop
  | first {before after : List String} {spelling : String}
      (hseen : seen = before ++ spelling :: after) (hsame : Text.lower spelling = Text.lower name)
      (hbefore : ∀ other ∈ before, Text.lower other ≠ Text.lower name) :
      SeenAs seen name (some spelling)
  | never (hseen : ∀ other ∈ seen, Text.lower other ≠ Text.lower name) : SeenAs seen name none

theorem find?_eq_iff_seenAs {seen : List String} {name : String} {spelling : Option String} :
    seen.find? (fun other => sameName other name) = spelling ↔ SeenAs seen name spelling := by
  cases spelling with
  | none =>
    simp only [List.find?_eq_none, sameName, beq_iff_eq]
    constructor
    · exact .never
    · rintro ⟨⟩
      assumption
  -- a search finds the first hit, which is how a spelling is seen first
  | some spelling =>
    simp only [List.find?_eq_some_iff_append, sameName, beq_iff_eq, Bool.not_eq_true',
      beq_eq_false_iff_ne]
    constructor
    · rintro ⟨hsame, before, after, hseen, hbefore⟩
      exact .first hseen hsame hbefore
    · rintro (⟨hseen, hsame, hbefore⟩ | _)
      exact ⟨hsame, _, _, hseen, hbefore⟩

/-! ## Dictionaries -/

/-- The names known are the first spellings of the names seen, each once. -/
structure Dictionary (seen known : List String) : Prop where
  distinct : (known.map Text.lower).Nodup
  find?_eq : ∀ name, known.find? (fun other => sameName other name)
    = seen.find? (fun other => sameName other name)

namespace Dictionary

variable {seen known : List String}

theorem nil : Dictionary [] [] := ⟨List.nodup_nil, fun _ => rfl⟩

/-- One name more is seen: it is known already, or becomes known as it is. -/
theorem add (h : Dictionary seen known) (name : String) :
    Dictionary (seen ++ [name])
      (if known.any (sameName name) then known else known ++ [name]) := by
  have hany : known.any (sameName name) = true ↔ Text.lower name ∈ known.map Text.lower := by
    simp only [List.any_eq_true, sameName, beq_iff_eq, List.mem_map]
    exact exists_congr fun _ => and_congr_right fun _ => eq_comm
  split
  case isTrue hknown =>
    refine ⟨h.distinct, fun other => ?_⟩
    rw [List.find?_append, ← h.find?_eq]
    -- whoever asks for the new name is given the known one
    by_cases hsame : sameName name other = true
    · obtain ⟨first, hfirst, hlower⟩ := List.mem_map.mp (hany.mp hknown)
      have hfound : (known.find? fun n => sameName n other).isSome = true := by
        rw [List.find?_isSome]
        refine ⟨first, hfirst, ?_⟩
        simp only [sameName, beq_iff_eq] at hsame ⊢
        exact hlower.trans hsame
      rw [Option.or_of_isSome hfound]
    · rw [List.find?_singleton, if_neg hsame, Option.or_none]
  case isFalse hnew =>
    -- a name of its own is the first spelling of its form, for every later search
    refine ⟨?_, fun other => ?_⟩
    · rw [List.map_append, List.map_singleton, ← List.concat_eq_append]
      exact h.distinct.concat (mt hany.mpr hnew)
    · rw [List.find?_append, List.find?_append, h.find?_eq]

/-- **The names of a sample make a dictionary**, whatever was known before. -/
theorem addNames (h : Dictionary seen known) (names : List String) :
    Dictionary (seen ++ names) (Catalog.addNames known names) := by
  induction names generalizing seen known with
  | nil => rwa [List.append_nil]
  | cons name rest ih =>
    rw [addNames_cons, List.append_cons]
    exact ih (h.add name)

/-- A name is known in some case of letters exactly if it was seen in some. -/
theorem mem_lower_iff (h : Dictionary seen known) (form : String) :
    form ∈ known.map Text.lower ↔ form ∈ seen.map Text.lower := by
  have hfound : ∀ (names : List String) (name : String), Text.lower name ∈ names.map Text.lower
      ↔ (names.find? fun other => sameName other name).isSome = true := by
    simp [sameName]
  constructor
  · intro hform
    obtain ⟨name, -, rfl⟩ := List.mem_map.mp hform
    rwa [hfound, ← h.find?_eq, ← hfound]
  · intro hform
    obtain ⟨name, -, rfl⟩ := List.mem_map.mp hform
    rwa [hfound, h.find?_eq, ← hfound]

/-- At most one known name is the same as a name but for the case of letters. -/
theorem subsingleton (h : Dictionary seen known) (name : String) :
    {other ∈ known | sameName other name}.Subsingleton := by
  rintro first ⟨hfirst, hsame⟩ second ⟨hsecond, hsame'⟩
  refine List.inj_on_of_nodup_map h.distinct hfirst hsecond ?_
  simp only [sameName, beq_iff_eq] at hsame hsame'
  rw [hsame, hsame']

/-- The names are found as they were first seen, in whatever order they are listed. -/
theorem seenAs_find? (h : Dictionary seen known) {listed : List String}
    (hlisted : listed.Perm known) (name : String) :
    SeenAs seen name (listed.find? fun other => sameName other name) := by
  rw [← find?_eq_iff_seenAs, ← h.find?_eq]
  exact List.find?_eq_find?_of_perm hlisted.symm (h.subsingleton name)

/-- A known name is spelled as it was first seen. -/
theorem seenAs_self (h : Dictionary seen known) {name : String} (hname : name ∈ known) :
    SeenAs seen name (some name) := by
  have hself : sameName name name = true := beq_self_eq_true _
  obtain ⟨spelling, hspelling⟩ : ∃ spelling,
      known.find? (fun other => sameName other name) = some spelling :=
    Option.isSome_iff_exists.mp (List.find?_isSome.mpr ⟨name, hname, hself⟩)
  have hsame : sameName spelling name = true :=
    List.find?_some (p := fun other => sameName other name) hspelling
  obtain rfl : spelling = name := h.subsingleton name
    ⟨List.mem_of_find?_eq_some hspelling, hsame⟩ ⟨hname, hself⟩
  rw [← find?_eq_iff_seenAs, ← h.find?_eq, hspelling]

end Dictionary

/-! ## Samples -/

/-- The part of a document that holds the fields of a kind. -/
def Kind.part : Kind → String
  | tag => Part.tags
  | column => Part.data

/-- The keys of a kind in the documents of a sample, in the order in which they are met.  A part
that is no map has none. -/
def sampledNames (kind : Kind) (documents : List Fields) : List String :=
  documents.flatMap (partNames kind.part)

theorem dictionary_ofFields (kind : Kind) (documents : List Fields) :
    Dictionary (sampledNames kind documents) ((ofFields documents).names kind) := by
  have h := Dictionary.nil.addNames (sampledNames kind documents)
  cases kind <;> exact h

end Catalog

namespace Memory

open SheetRecall.Store SheetRecall.Task SheetRecall.Catalog

/-- **What is discovered is a dictionary of the sampled keys**, in which case does not matter.  Let
an index answer the query for a sample with documents.  Then no two tags, and no two columns, that a
memory discovers differ in the case of letters only.  They are the keys of the documents up to case,
each as it was spelled first.  A name is found as it was first spelled in the sample, in any case of
letters, and is not found if the sample does not have it, in whatever order the catalog lists its
names. -/
theorem discovered_dictionary {m : Memory} (hrows : m.codec.rows.isSome = true)
    {documents : List Fields} {index : String} {s : Session}
    (hanswer : s.account.answer m.database index (Query.sample m.sampleSize).text
      = ⟨documents.map .map, none⟩) :
    ∃ catalog s', perform (m.catalog index) s = (.ok catalog, s') ∧ ∀ kind : Kind,
      ((catalog.names kind).map Text.lower).Nodup
        ∧ (∀ form, form ∈ (catalog.names kind).map Text.lower
          ↔ form ∈ (sampledNames kind documents).map Text.lower)
        ∧ (∀ name ∈ catalog.names kind, SeenAs (sampledNames kind documents) name (some name))
        ∧ ∀ listed : Catalog, (listed.names kind).Perm (catalog.names kind) → ∀ name,
          SeenAs (sampledNames kind documents) name (listed.find? kind name) := by
  have hcatalog := ofDelivery_eq_ok_iff.mpr ⟨documents, hanswer, rfl⟩
  refine ⟨ofFields documents, _, perform_catalog hrows hcatalog, fun kind => ?_⟩
  have h := dictionary_ofFields kind documents
  exact ⟨h.distinct, h.mem_lower_iff, fun name => h.seenAs_self,
    fun listed hlisted => h.seenAs_find? hlisted⟩

/-- Three documents that spell their keys in different ways; the parts of the last are no maps. -/
def spelledDocuments : List Fields :=
  [[(Part.tags, .map [("Env", .list [.text "a"])]), (Part.data, .map [("cores", .int 4)])],
    [(Part.tags, .map [("env", .list [.text "b"]), ("loc", .list [])]),
      (Part.data, .map [("Cores", .int 8), ("CORES", .int 9)])],
    [(Part.tags, .text "env"), (Part.data, .null)]]

/-- An account whose database `d` has the index `machines`, with such documents. -/
def spelledAccount : Account :=
  { databases := [("d",
      { made := true
        containers := [("machines",
          { properties := Account.newProperties "machines" (.int 0)
            documents := spelledDocuments })] })] }

/-- The tags `Env` and `loc` and the column `cores` are discovered. -/
theorem discovered_dictionary_spelled :
    ∃ catalog s', perform ((tabular "d" true (.int 10)).catalog "machines")
        { account := spelledAccount } = (.ok catalog, s') ∧ ∀ kind : Kind,
      ((catalog.names kind).map Text.lower).Nodup
        ∧ (∀ form, form ∈ (catalog.names kind).map Text.lower
          ↔ form ∈ (sampledNames kind spelledDocuments).map Text.lower)
        ∧ (∀ name ∈ catalog.names kind,
          SeenAs (sampledNames kind spelledDocuments) name (some name))
        ∧ ∀ listed : Catalog, (listed.names kind).Perm (catalog.names kind) → ∀ name,
          SeenAs (sampledNames kind spelledDocuments) name (listed.find? kind name) :=
  discovered_dictionary rfl rfl

end Memory

end SheetRecall
