import Mathlib.Data.List.Induction
import SheetRecall.Filter.Basic

/-!
# What Is Added to a Filter

A filter keeps the first of all equal pairs that are added to it, in the order in which they are
added, whether they come one by one or from a map.  So its pairs differ, and pairs that differ make
up a filter of their own.

## Main statements
- `pairs_ofPairs`: which pairs a filter keeps.
- `distinct_ofPairs`, `ofPairs_of_distinct`: the pairs of filters are the lists of pairs that
  differ.
- `Built.eq_ofPairs`: in whatever ways pairs are added, the same filter comes of them.
-/

namespace SheetRecall.Filter

/-! ## Equal pairs -/

/-- A pair is the same as one that was added before: they have one key and equal values. -/
def samePair (new old : String × Value) : Bool := old.1 == new.1 && old.2.same new.2

theorem samePair_eq_false_of_ne {new old : String × Value} (h : old.1 ≠ new.1) :
    samePair new old = false := by
  rw [samePair, beq_eq_false_iff_ne.mpr h, Bool.false_and]

/-- The pairs differ, each from all that come before it. -/
def Distinct (pairs : List (String × Value)) : Prop :=
  pairs.Pairwise fun old new => samePair new old = false

/-! ## One pair -/

theorem pairs_add (f : Filter) (key : String) (value : Value) :
    (f.add key value).pairs
      = if f.pairs.any (samePair (key, value)) then f.pairs else f.pairs ++ [(key, value)] := by
  rw [add, addBy]
  exact apply_ite pairs _ _ _

theorem Distinct.add {f : Filter} (h : Distinct f.pairs) (key : String) (value : Value) :
    Distinct (f.add key value).pairs := by
  rw [pairs_add]
  split
  case isTrue => exact h
  case isFalse hnew =>
    refine List.pairwise_append.mpr ⟨h, List.pairwise_singleton _ _, fun old hold new hmem => ?_⟩
    rw [List.mem_singleton.mp hmem]
    exact Bool.eq_false_iff.mpr fun hsame => hnew (List.any_eq_true.mpr ⟨old, hold, hsame⟩)

/-! ## Pair after pair -/

theorem ofPairs_concat (pairs : List (String × Value)) (pair : String × Value) :
    ofPairs (pairs ++ [pair]) = (ofPairs pairs).add pair.1 pair.2 := by
  rw [ofPairs, addAllBy, List.foldl_append]
  rfl

/-- **Of pairs that are added the first of all equal ones is kept**, in the order in which they are
added. -/
theorem pairs_ofPairs (pairs : List (String × Value)) :
    (ofPairs pairs).pairs = pairs.eraseDupsBy samePair := by
  -- the filter so far, read backwards, is what `eraseDupsBy` has kept so far
  have hloop : ∀ f : Filter, (f.addAllBy Value.same pairs).pairs
      = List.eraseDupsBy.loop samePair pairs f.pairs.reverse := by
    induction pairs with
    | nil => exact fun f => (List.reverse_reverse f.pairs).symm
    | cons pair rest ih =>
      intro f
      have hstep := pairs_add f pair.1 pair.2
      rw [addAllBy, List.foldl_cons, List.eraseDupsBy.loop, List.any_reverse]
      refine (ih (f.add pair.1 pair.2)).trans ?_
      -- a pair that was seen before is dropped on both sides
      cases hseen : f.pairs.any (samePair pair) with
      | true => rw [hstep, hseen, if_pos rfl]
      | false =>
        rw [hstep, hseen, if_neg Bool.false_ne_true, List.reverse_append]
        rfl
  exact hloop empty

theorem distinct_ofPairs (pairs : List (String × Value)) : Distinct (ofPairs pairs).pairs := by
  induction pairs using List.reverseRecOn with
  | nil => exact List.Pairwise.nil
  | append_singleton pairs pair ih =>
    rw [ofPairs_concat]
    exact ih.add pair.1 pair.2

/-- Pairs that differ are all kept. -/
theorem ofPairs_of_distinct {pairs : List (String × Value)} (h : Distinct pairs) :
    ofPairs pairs = ⟨pairs⟩ := by
  induction pairs using List.reverseRecOn with
  | nil => rfl
  | append_singleton pairs pair ih =>
    obtain ⟨hbefore, -, hnew⟩ := List.pairwise_append.mp h
    have hseen : pairs.any (samePair pair) = false := by
      rw [List.any_eq_false]
      exact fun old hold => by simp [hnew old hold pair List.mem_cons_self]
    have hpairs := pairs_add ⟨pairs⟩ pair.1 pair.2
    rw [hseen, if_neg Bool.false_ne_true] at hpairs
    rw [ofPairs_concat, ih hbefore]
    exact congrArg Filter.mk hpairs

/-! ## All ways to add pairs -/

/-- The filter was built by adding these pairs, in any of the ways there are. -/
inductive Built : List (String × Value) → Filter → Prop
  | ofPairs (pairs : List (String × Value)) : Built pairs (ofPairs pairs)
  | ofMap (fields : Fields) : Built (fields.flatMap fieldPairs) (ofMap fields)
  | add {added : List (String × Value)} {f : Filter} (h : Built added f) (key : String)
      (value : Value) : Built (added ++ [(key, value)]) (f.add key value)
  | byTag {added : List (String × Value)} {f : Filter} (h : Built added f) (tag : String)
      (value : Value) : Built (added ++ [(tag, value)]) (f.byTag tag value)
  | byColumn {added : List (String × Value)} {f : Filter} (h : Built added f) (column : String)
      (value : Value) : Built (added ++ [(columnMark ++ column, value)]) (f.byColumn column value)

/-- A filter is that of the pairs that were added to it. -/
theorem Built.eq_ofPairs {added : List (String × Value)} {f : Filter} (h : Built added f) :
    f = Filter.ofPairs added := by
  -- each way of adding is one more pair behind those before
  induction h with
  | ofPairs pairs => rfl
  | ofMap fields => rfl
  | add _ key value ih => rw [ofPairs_concat, ← ih]
  | byTag _ tag value ih => rw [ofPairs_concat, ← ih, Filter.byTag]
  | byColumn _ column value ih => rw [ofPairs_concat, ← ih, Filter.byColumn]

end SheetRecall.Filter
