import Mathlib.Data.List.Nodup
import SheetRecall.Store.Container

/-!
# Documents under Keys

A container that tells its documents apart by partition and id keeps one document under each key.
So a document that is put takes the place of the one with its key, or comes at the end, and one that
is deleted leaves all others where they are.

## Main statements
- `putDocument_cases`: where a document is put.
- `Keyed.putDocument`, `Keyed.sublist`: keys stay different when documents are put or deleted.
- `filter_isAt`: what is left when a document is deleted.
-/

namespace SheetRecall.Store.Container

/-- The id and the partition of a document. -/
def key (document : Fields) : Option String × Option String :=
  (textAt document Part.id, textAt document Part.file)

/-- No two documents have one key. -/
def Keyed (documents : List Fields) : Prop := (documents.map key).Nodup

theorem sameKey_byPartition_iff (d e : Fields) :
    sameKey .byPartition d e = true ↔ key d = key e := by
  simp [sameKey, key]

theorem isAt_iff (id partition : String) (document : Fields) :
    isAt id partition document = true ↔ key document = (some id, some partition) := by
  simp [isAt, key]

/-! ## Among different keys -/

/-- The key of one document among many is not that of another one. -/
theorem Keyed.key_ne {before after : List Fields} {document : Fields}
    (h : Keyed (before ++ document :: after)) :
    ∀ other ∈ before ++ after, key other ≠ key document := by
  intro other hother hsame
  rw [Keyed, List.map_append, List.map_cons, List.nodup_middle, List.nodup_cons,
    ← List.map_append] at h
  exact h.1 (hsame ▸ List.mem_map_of_mem hother)

theorem Keyed.sublist {documents fewer : List Fields} (h : Keyed documents)
    (hfewer : fewer.Sublist documents) : Keyed fewer :=
  List.Nodup.sublist (hfewer.map key) h

/-- The documents that are not deleted are the others, in their order. -/
theorem Keyed.filter_isAt {before after : List Fields} {document : Fields}
    (h : Keyed (before ++ document :: after)) {id partition : String}
    (hat : key document = (some id, some partition)) :
    (before ++ document :: after).filter (fun other => !isAt id partition other)
      = before ++ after := by
  have hkept : ∀ other ∈ before ++ after, (!isAt id partition other) = true := by
    intro other hother
    rw [Bool.not_eq_true', Bool.eq_false_iff, ne_eq, isAt_iff, ← hat]
    exact h.key_ne other hother
  have hdropped : (!isAt id partition document) = false := by
    rw [(isAt_iff id partition document).mpr hat]
    rfl
  rw [List.filter_append, List.filter_cons_of_neg (by simp [hdropped]), ← List.filter_append,
    List.filter_eq_self.mpr hkept]

/-! ## Putting a document -/

/-- A document takes the place of the first one with its key. -/
theorem putDocument_of_key_eq {before after : List Fields} {d e : Fields}
    (hbefore : ∀ other ∈ before, key other ≠ key e) (hkey : key d = key e) :
    putDocument .byPartition (before ++ d :: after) e = before ++ e :: after := by
  induction before with
  | nil =>
    rw [List.nil_append, putDocument, if_pos ((sameKey_byPartition_iff d e).mpr hkey)]
    rfl
  | cons first rest ih =>
    have hfirst := hbefore first List.mem_cons_self
    rw [List.cons_append, putDocument, if_neg (mt (sameKey_byPartition_iff first e).mp hfirst),
      ih fun other hother => hbefore other (List.mem_cons_of_mem _ hother)]
    rfl

theorem putDocument_of_key_ne {documents : List Fields} {e : Fields}
    (h : ∀ other ∈ documents, key other ≠ key e) :
    putDocument .byPartition documents e = documents ++ [e] := by
  induction documents with
  | nil => rfl
  | cons first rest ih =>
    have hfirst := h first List.mem_cons_self
    rw [putDocument, if_neg (mt (sameKey_byPartition_iff first e).mp hfirst),
      ih fun other hother => h other (List.mem_cons_of_mem _ hother)]
    rfl

/-- A document takes the place of the one with its key, or comes at the end if there is none. -/
theorem putDocument_cases {documents : List Fields} (h : Keyed documents) (e : Fields) :
    (∃ before d after, documents = before ++ d :: after ∧ key d = key e
        ∧ putDocument .byPartition documents e = before ++ e :: after)
      ∨ (∀ d ∈ documents, key d ≠ key e)
        ∧ putDocument .byPartition documents e = documents ++ [e] := by
  by_cases hthere : ∃ d ∈ documents, key d = key e
  · -- keys differ, so no document before that one has its key
    obtain ⟨d, hd, hkey⟩ := hthere
    obtain ⟨before, after, rfl⟩ := List.append_of_mem hd
    refine Or.inl ⟨before, d, after, rfl, hkey, putDocument_of_key_eq ?_ hkey⟩
    intro other hother
    rw [← hkey]
    exact h.key_ne other (List.mem_append_left _ hother)
  · have hnone : ∀ d ∈ documents, key d ≠ key e := by
      intro d hd hkey
      exact hthere ⟨d, hd, hkey⟩
    exact Or.inr ⟨hnone, putDocument_of_key_ne hnone⟩

theorem mem_putDocument {documents : List Fields} (h : Keyed documents) {d e : Fields}
    (hd : d ∈ putDocument .byPartition documents e) : d = e ∨ d ∈ documents := by
  rcases putDocument_cases h e with ⟨before, other, after, rfl, -, hput⟩ | ⟨-, hput⟩
  · rw [hput, List.mem_append, List.mem_cons] at hd
    rw [List.mem_append, List.mem_cons]
    tauto
  · rw [hput, List.mem_append, List.mem_singleton] at hd
    exact hd.symm

/-- Keys stay different when a document is put. -/
theorem Keyed.putDocument {documents : List Fields} (h : Keyed documents) (e : Fields) :
    Keyed (putDocument .byPartition documents e) := by
  rcases putDocument_cases h e with ⟨before, d, after, rfl, hkey, hput⟩ | ⟨hnone, hput⟩
  · -- the keys are the same as before
    rw [hput, Keyed, List.map_append, List.map_cons, ← hkey, ← List.map_cons, ← List.map_append]
    exact h
  · rw [hput, Keyed, List.map_append]
    refine List.Nodup.append h (List.nodup_singleton _) ?_
    intro known hknown hsame
    obtain ⟨d, hd, rfl⟩ := List.mem_map.mp hknown
    exact hnone d hd (List.mem_singleton.mp hsame)

end SheetRecall.Store.Container
