import SheetRecall.Proofs.Entries
import SheetRecall.Proofs.Filter.Pairs

/-!
# Filters as Maps

A filter as a map holds the values of each key, in the order in which its pairs were added.  Pairs
whose values are texts are added once each, so the map of a filter of such pairs can be read off
them.

## Main statements
- `groups_eq_map`: under each key stand the values of its pairs.
- `toMap_ofPairs_texts`: the map of a filter of texts.
-/

namespace SheetRecall.Filter

/-! ## Values by key -/

/-- Helper: values put one behind the other. -/
theorem foldl_append_singleton (values gathered : List Value) :
    values.foldl (fun gathered v => some (gathered.getD [] ++ [v])) (some gathered)
      = some (gathered ++ values) := by
  induction values generalizing gathered with
  | nil => simp
  | cons v rest ih =>
    rw [List.foldl_cons, Option.getD_some, ih, List.append_assoc, List.singleton_append]

/-- Under each key stand the values of its pairs; keys come in the order in which they first
appear. -/
theorem groups_eq_map (f : Filter) :
    f.groups = (f.pairs.map (·.1)).eraseDups.map fun key =>
      (key, (f.pairs.filter fun pair => pair.1 = key).map (·.2)) := by
  refine Entries.foldl_alter_eq_map (fun v values => values.getD [] ++ [v]) f.pairs _ ?_
  intro key v vs hvalues
  rw [hvalues]
  exact foldl_append_singleton vs [v]

/-! ## Pairs of texts -/

/-- A pair whose value is a text. -/
def textPair (pair : String × String) : String × Value := (pair.1, .text pair.2)

/-- Pairs as a map from keys to lists of values: each pair once, keys and the values under each key
in the order in which they first come. -/
def grouped (pairs : List (String × String)) : Fields :=
  let distinct := pairs.eraseDups
  (distinct.map (·.1)).eraseDups.map fun key =>
    (key, .list ((distinct.filter fun pair => pair.1 = key).map fun pair => .text pair.2))

/-- A filter of texts has a pair exactly when the pair is among them. -/
theorem hasBy_same_text (pairs : List (String × String)) (pair : String × String) :
    hasBy Value.same ⟨pairs.map textPair⟩ pair.1 (.text pair.2) = decide (pair ∈ pairs) := by
  have hsame : ∀ s t : String, Value.same (.text s) (.text t) = (s == t) := fun _ _ => rfl
  rw [Bool.eq_iff_iff]
  simp only [hasBy, textPair, List.any_map, List.any_eq_true, Function.comp_apply, hsame,
    Bool.and_eq_true, beq_iff_eq, decide_eq_true_eq]
  constructor
  · rintro ⟨other, hmem, hkey, hvalue⟩
    exact Prod.ext hkey hvalue ▸ hmem
  · intro hmem
    exact ⟨pair, hmem, rfl, rfl⟩

/-- Of pairs of texts a filter keeps each once. -/
theorem pairs_ofPairs_texts (pairs : List (String × String)) :
    (ofPairs (pairs.map textPair)).pairs = pairs.eraseDups.map textPair := by
  induction pairs using List.reverseRecOn with
  | nil => rfl
  | append_singleton pairs pair ih =>
    have hfilter : ofPairs (pairs.map textPair) = ⟨pairs.eraseDups.map textPair⟩ := by
      rw [← ih]
    -- the pairs are added one by one, and one that is there already adds nothing
    have hstep : ofPairs ((pairs ++ [pair]).map textPair)
        = (ofPairs (pairs.map textPair)).addBy Value.same pair.1 (.text pair.2) := by
      rw [List.map_append, List.map_singleton, ofPairs_concat]
      rfl
    rw [hstep, hfilter, addBy, hasBy_same_text, List.eraseDups_append, List.cons_removeAll]
    by_cases hmem : pair ∈ pairs
    · simp [hmem]
    · simp [hmem, List.eraseDups_cons, textPair]

/-- **The map of a filter of texts groups its pairs by key.** -/
theorem toMap_ofPairs_texts (pairs : List (String × String)) :
    (ofPairs (pairs.map textPair)).toMap = grouped pairs := by
  rw [toMap, groups_eq_map, pairs_ofPairs_texts, grouped, List.map_map, List.map_map]
  simp only [List.filter_map, List.map_map, Function.comp_def, textPair]
  rfl

/-- A filter of texts asks for nothing exactly when there are none. -/
theorem isEmpty_ofPairs_texts (pairs : List (String × String)) :
    (ofPairs (pairs.map textPair)).isEmpty = pairs.isEmpty := by
  rw [Bool.eq_iff_iff, isEmpty, pairs_ofPairs_texts, List.all_map, List.all_eq_true,
    List.isEmpty_iff]
  constructor
  · intro hall
    cases pairs with
    | nil => rfl
    | cons pair rest =>
      have hnull := hall pair (List.mem_eraseDups.mpr List.mem_cons_self)
      exact absurd hnull (by simp [textPair, Value.isNull])
  · rintro rfl pair hpair
    exact absurd hpair (by simp)

end SheetRecall.Filter
