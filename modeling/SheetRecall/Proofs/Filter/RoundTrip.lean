import SheetRecall.Proofs.Filter.Grouping
import SheetRecall.Proofs.Filter.Meaning

/-!
# Filters Are Read Back From Their Maps

The filter that is read from the map of a filter has the same pairs, but key by key: the map wraps
each value into a list, and reading it expands one list, so a value that is a list itself comes
back as it was.  What is read has the same map again, and it means the same, since the meaning of a
filter does not depend on the order of its pairs.

## Layers
- `perm_byKey`, `Distinct.byKey`: pairs that are taken key by key.
- `spread_groups`, `groups_spread`: between pairs and the values of each key, both ways.

## Main statements
- `ofMap_toMap`: what is read from the map of a filter.
- `toMap_ofMap_toMap`: the map of what is read.
- `compile_ofMap_toMap_holds_iff`: what it means.
- `Built.survivesMap`: all of this for every filter.
-/

namespace SheetRecall.Filter

/-! ## Pairs key by key -/

/-- The pairs key by key: keys in the order in which they first appear, and under each key its
pairs in the order in which they come. -/
def byKey (pairs : List (String × Value)) : List (String × Value) :=
  (pairs.map (·.1)).eraseDups.flatMap fun key => pairs.filter fun pair => pair.1 = key

/-- Helper: pairs that are taken key by key are all taken, whatever the order of the keys. -/
theorem perm_flatMap_filter {keys : List String} (hnodup : keys.Nodup)
    {pairs : List (String × Value)} (hkeys : ∀ pair ∈ pairs, pair.1 ∈ keys) :
    (keys.flatMap fun key => pairs.filter fun pair => pair.1 = key).Perm pairs := by
  -- a key takes its own pairs out, and the rest keeps the others
  induction keys generalizing pairs with
  | nil =>
    have hnone : pairs = [] := List.eq_nil_iff_forall_not_mem.mpr fun pair hpair =>
      absurd (hkeys pair hpair) (by simp)
    rw [hnone]
    exact List.Perm.nil
  | cons key keys ih =>
    obtain ⟨hnew, hnodup⟩ := List.nodup_cons.mp hnodup
    -- the pairs of the other keys are among those without the first key
    have hothers : (keys.flatMap fun other => pairs.filter fun pair => pair.1 = other)
        = keys.flatMap fun other =>
          (pairs.filter fun pair => !decide (pair.1 = key)).filter fun pair => pair.1 = other := by
      refine List.flatMap_congr fun other hother => ?_
      rw [List.filter_filter]
      refine List.filter_congr fun pair _ => ?_
      by_cases heq : pair.1 = other
      · have hne : pair.1 ≠ key := fun h => hnew (h ▸ heq ▸ hother)
        simp [heq, heq ▸ hne]
      · simp [heq]
    have hrest := @ih hnodup (pairs.filter fun pair => !decide (pair.1 = key)) fun pair hpair => by
      obtain ⟨hmem, hne⟩ := List.mem_filter.mp hpair
      exact (List.mem_cons.mp (hkeys pair hmem)).resolve_left (by simpa using hne)
    rw [List.flatMap_cons, hothers]
    exact (hrest.append_left _).trans (List.filter_append_perm (fun pair => pair.1 = key) pairs)

/-- Key by key the pairs are the same in another order. -/
theorem perm_byKey (pairs : List (String × Value)) : (byKey pairs).Perm pairs := by
  refine perm_flatMap_filter (Entries.nodup_eraseDups _) fun pair hpair => ?_
  exact List.mem_eraseDups.mpr (List.mem_map_of_mem hpair)

theorem Distinct.byKey {pairs : List (String × Value)} (h : Distinct pairs) :
    Distinct (byKey pairs) := by
  -- the pairs of one key keep their order, and pairs of two keys differ
  refine List.pairwise_flatMap.mpr ⟨fun key _ => h.filter _, ?_⟩
  refine (Entries.nodup_eraseDups _).imp ?_
  intro key other hne old hold new hnew
  simp only [List.mem_filter, decide_eq_true_eq] at hold hnew
  exact samePair_eq_false_of_ne (by rw [hold.2, hnew.2]; exact hne)

/-! ## Values of each key -/

/-- The pairs that a list of values under each key stands for. -/
def spread (groups : Entries (List Value)) : List (String × Value) :=
  groups.flatMap fun group => group.2.map fun value => (group.1, value)

/-- The lists of a map are expanded, and no list in them. -/
theorem flatMap_fieldPairs_toMap (f : Filter) : f.toMap.flatMap fieldPairs = spread f.groups := by
  rw [toMap, List.flatMap_map]
  rfl

theorem spread_groups (f : Filter) : spread f.groups = byKey f.pairs := by
  rw [groups_eq_map, spread, byKey, List.flatMap_map]
  refine List.flatMap_congr fun key _ => ?_
  rw [List.map_map]
  refine (List.map_congr_left fun pair hpair => ?_).trans (List.map_id _)
  obtain rfl := of_decide_eq_true (List.mem_filter.mp hpair).2
  rfl

/-- Helper: the values of a new key are gathered at the end. -/
theorem foldl_alter_values {groups : Entries (List Value)} {key : String}
    (h : key ∉ groups.names) {values : List Value} (hne : values ≠ []) :
    (values.map fun value => (key, value)).foldl
        (fun lists pair => lists.alter pair.1 fun values => values.getD [] ++ [pair.2]) groups
      = groups ++ [(key, values)] := by
  induction values using List.reverseRecOn with
  | nil => exact absurd rfl hne
  | append_singleton values value ih =>
    rw [List.map_append, List.map_singleton, List.foldl_concat]
    by_cases hfirst : values = []
    · subst hfirst
      exact Entries.alter_eq_append h _
    · rw [ih hfirst]
      exact Entries.alter_append_self h values _

/-- Lists of values under different keys are gathered again from the pairs that they stand for. -/
theorem groups_spread {groups : Entries (List Value)} (hnodup : groups.names.Nodup)
    (hne : ∀ group ∈ groups, group.2 ≠ []) : Filter.groups ⟨spread groups⟩ = groups := by
  -- the groups are spread one after another, so the last one is gathered last
  induction groups using List.reverseRecOn with
  | nil => rfl
  | append_singleton groups group ih =>
    rw [Entries.names, List.map_append, List.map_singleton, ← List.concat_eq_append,
      List.nodup_concat] at hnodup
    -- the last group has a key of its own, so its values are gathered behind the others
    have hbefore := ih hnodup.2 fun g hg => hne g (List.mem_append_left _ hg)
    have hspread : spread (groups ++ [group])
        = spread groups ++ group.2.map fun value => (group.1, value) := by
      rw [spread, List.flatMap_append, List.flatMap_singleton]
      rfl
    rw [Filter.groups] at hbefore ⊢
    dsimp only at hbefore ⊢
    rw [hspread, List.foldl_append, hbefore]
    exact foldl_alter_values hnodup.1 (hne group (by simp))

theorem nodup_names_groups (f : Filter) : f.groups.names.Nodup :=
  Entries.nodup_names_foldl_alter (fun value values => values.getD [] ++ [value]) f.pairs

/-- A key has a value under it. -/
theorem ne_nil_of_mem_groups {f : Filter} : ∀ group ∈ f.groups, group.2 ≠ [] := by
  rw [groups_eq_map]
  intro group hgroup
  obtain ⟨key, hkey, rfl⟩ := List.mem_map.mp hgroup
  obtain ⟨pair, hpair, rfl⟩ := List.mem_map.mp (List.mem_eraseDups.mp hkey)
  have hmem : pair ∈ f.pairs.filter fun other => other.1 = pair.1 :=
    List.mem_filter.mpr ⟨hpair, decide_eq_true rfl⟩
  exact List.ne_nil_of_mem (List.mem_map_of_mem hmem)

/-! ## What is read back -/

/-- What becomes of a filter, to which pairs were added, on the way to its map and back. -/
structure SurvivesMap (added : List (String × Value)) (f : Filter) : Prop where
  /-- Of equal pairs the first that was added is kept. -/
  kept : f.pairs = added.eraseDupsBy samePair
  distinct : Distinct f.pairs
  /-- What is read from the map has the pairs of the filter, key by key. -/
  grouped : (ofMap f.toMap).pairs = byKey f.pairs
  perm : (ofMap f.toMap).pairs.Perm f.pairs
  /-- What is read from the map has the same map again. -/
  sameMap : (ofMap f.toMap).toMap = f.toMap
  /-- What is read from the map means the same. -/
  sameMeaning : ∀ {δ : Type u} (I : Interpretation δ) (normalize : Bool) (item : String) (d : δ),
    (compile normalize item [f]).Holds I d ↔ (compile normalize item [ofMap f.toMap]).Holds I d

section

variable {f : Filter} (h : Distinct f.pairs)
include h

/-- **What is read from the map of a filter** has its pairs, key by key. -/
theorem ofMap_toMap : ofMap f.toMap = ⟨byKey f.pairs⟩ := by
  have hmap : ofMap f.toMap = ofPairs (f.toMap.flatMap fieldPairs) := rfl
  rw [hmap, flatMap_fieldPairs_toMap, spread_groups, ofPairs_of_distinct h.byKey]

/-- **What is read from the map of a filter has the same map.** -/
theorem toMap_ofMap_toMap : (ofMap f.toMap).toMap = f.toMap := by
  rw [ofMap_toMap h, ← spread_groups, toMap,
    groups_spread (nodup_names_groups f) ne_nil_of_mem_groups]
  rfl

/-- **What is read from the map of a filter means the same.** -/
theorem compile_ofMap_toMap_holds_iff {δ : Type u} (I : Interpretation δ) (normalize : Bool)
    (item : String) (d : δ) :
    (compile normalize item [f]).Holds I d
      ↔ (compile normalize item [ofMap f.toMap]).Holds I d := by
  rw [compile_filter_holds_iff, compile_filter_holds_iff, ofMap_toMap h]
  simp only [(perm_byKey f.pairs).mem_iff]

end

/-- **A filter survives its map**, in whatever ways it was built. -/
theorem Built.survivesMap {added : List (String × Value)} {f : Filter} (h : Built added f) :
    SurvivesMap.{u} added f := by
  -- only the pairs count, not the way in which they came
  obtain rfl := h.eq_ofPairs
  have hdistinct := distinct_ofPairs added
  have hback := congrArg pairs (ofMap_toMap hdistinct)
  exact {
    kept := pairs_ofPairs added
    distinct := hdistinct
    grouped := hback
    perm := hback ▸ perm_byKey _
    sameMap := toMap_ofMap_toMap hdistinct
    sameMeaning := compile_ofMap_toMap_holds_iff hdistinct }

end SheetRecall.Filter
