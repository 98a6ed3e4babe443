import Mathlib.Data.List.Sort

/-!
# Stable Descending Order

A list is ranked by an integer that each element has: greater ones come first, and elements with
the same one keep the order that they had.  There is one such list, and sorting gives it.

## Main statements
- `rankedBy_mergeSort`: sorting ranks.
- `RankedBy.unique`: two rankings of one list are the same.
- `mergeSort_filter`: elements can be left out before sorting or after it.
- `RankedBy.pairwise`: elements with the same key stand as they stood.
-/

namespace SheetRecall

variable {α : Type}

/-- The second list holds the elements of the first, greater keys first, and elements with the same
key in the order of the first list. -/
structure RankedBy (key : α → Int) (xs ys : List α) : Prop where
  perm : ys.Perm xs
  descending : ys.Pairwise fun a b => key b ≤ key a
  ties : ∀ n, ys.filter (fun a => key a = n) = xs.filter fun a => key a = n

variable {key : α → Int}

/-! ## Uniqueness -/

/-- Helper: in a descending list the first key is not below that of any element of a list with the
same elements under each key. -/
theorem key_le_head {y z : α} {ys zs : List α}
    (hys : (y :: ys).Pairwise fun a b => key b ≤ key a)
    (hties : ∀ n, (y :: ys).filter (fun a => key a = n) = (z :: zs).filter fun a => key a = n) :
    key z ≤ key y := by
  have hz : z ∈ (y :: ys).filter fun a => key a = key z := by
    rw [hties]
    simp
  rcases List.mem_cons.mp (List.mem_filter.mp hz).1 with rfl | hmem
  · exact le_refl _
  · exact List.rel_of_pairwise_cons hys hmem

/-- Descending lists with the same elements under each key, in the same order, are the same. -/
theorem eq_of_descending {ys zs : List α} (hys : ys.Pairwise fun a b => key b ≤ key a)
    (hzs : zs.Pairwise fun a b => key b ≤ key a)
    (hties : ∀ n, ys.filter (fun a => key a = n) = zs.filter fun a => key a = n) : ys = zs := by
  induction ys generalizing zs with
  | nil =>
    cases zs with
    | nil => rfl
    | cons z zs => simpa using hties (key z)
  | cons y ys ih =>
    cases zs with
    | nil => simpa using hties (key y)
    | cons z zs =>
      -- both lists start with their greatest key, and with the first element under it
      have hkey : key y = key z :=
        le_antisymm (key_le_head hzs fun n => (hties n).symm) (key_le_head hys hties)
      have hhead : y = z := by
        have h := hties (key z)
        rw [List.filter_cons_of_pos (by simpa using hkey), List.filter_cons_of_pos (by simp)] at h
        exact (List.cons.inj h).1
      subst hhead
      have hrest : ∀ n, ys.filter (fun a => key a = n) = zs.filter fun a => key a = n := by
        intro n
        have h := hties n
        by_cases hn : key y = n
        · rw [List.filter_cons_of_pos (by simpa using hn),
            List.filter_cons_of_pos (by simpa using hn)] at h
          exact (List.cons.inj h).2
        · rwa [List.filter_cons_of_neg (by simpa using hn),
            List.filter_cons_of_neg (by simpa using hn)] at h
      rw [ih hys.of_cons hzs.of_cons hrest]

/-- **Two rankings of one list are the same.** -/
theorem RankedBy.unique {xs ys zs : List α} (hys : RankedBy key xs ys)
    (hzs : RankedBy key xs zs) : ys = zs :=
  eq_of_descending hys.descending hzs.descending fun n => (hys.ties n).trans (hzs.ties n).symm

/-! ## Sorting -/

/-- **Sorting ranks.** -/
theorem rankedBy_mergeSort (key : α → Int) (xs : List α) :
    RankedBy key xs (xs.mergeSort fun a b => key b ≤ key a) := by
  -- keys are compared by a total order, as sorting asks
  have htrans : ∀ a b c : α, decide (key b ≤ key a) = true → decide (key c ≤ key b) = true →
      decide (key c ≤ key a) = true := by
    intro a b c hab hbc
    simp only [decide_eq_true_eq] at hab hbc ⊢
    exact le_trans hbc hab
  have htotal : ∀ a b : α, (decide (key b ≤ key a) || decide (key a ≤ key b)) = true := by
    intro a b
    simpa using le_total (key b) (key a)
  have hperm := List.mergeSort_perm xs fun a b => decide (key b ≤ key a)
  refine ⟨hperm, ?_, fun n => ?_⟩
  · simpa using List.pairwise_mergeSort htrans htotal xs
  · -- the elements under one key stand in order already, so sorting keeps them in that order
    have hordered : (xs.filter fun a => key a = n).Pairwise
        fun a b => decide (key b ≤ key a) = true := by
      refine List.pairwise_of_forall_mem_list fun a ha b hb => ?_
      simp only [List.mem_filter, decide_eq_true_eq] at ha hb ⊢
      rw [ha.2, hb.2]
    have hsub := (List.sublist_mergeSort htrans htotal hordered List.filter_sublist).filter
      fun a => decide (key a = n)
    simp only [List.filter_filter, Bool.and_self] at hsub
    exact (hsub.eq_of_length (hperm.symm.filter _).length_eq).symm

/-- **In a ranking one element stands before another if its key is greater**, or if the keys are the
same and it stood before the other. -/
theorem RankedBy.pairwise {xs ys : List α} (h : RankedBy key xs ys) {R : α → α → Prop}
    (hxs : xs.Pairwise R) : ys.Pairwise fun a b => key b < key a ∨ key a = key b ∧ R a b := by
  rw [List.pairwise_iff_forall_sublist]
  intro a b hab
  rcases (List.pairwise_iff_forall_sublist.mp h.descending hab).lt_or_eq with hlt | heq
  · exact .inl hlt
  · -- both stand under one key, where the order is that of the first list
    have hkept : [a, b].Sublist (xs.filter fun c => key c = key a) := by
      rw [← h.ties (key a)]
      simpa [heq] using hab.filter fun c => decide (key c = key a)
    exact .inr ⟨heq.symm,
      List.pairwise_iff_forall_sublist.mp hxs (hkept.trans List.filter_sublist)⟩

/-- Leaving elements out of a ranking ranks the list without them. -/
theorem RankedBy.filter {xs ys : List α} (h : RankedBy key xs ys) (keep : α → Bool) :
    RankedBy key (xs.filter keep) (ys.filter keep) := by
  refine ⟨h.perm.filter keep, h.descending.filter keep, fun n => ?_⟩
  rw [List.filter_comm, h.ties n, List.filter_comm]

/-- Elements can be left out before sorting or after it. -/
theorem mergeSort_filter (key : α → Int) (xs : List α) (keep : α → Bool) :
    (xs.filter keep).mergeSort (fun a b => key b ≤ key a)
      = (xs.mergeSort fun a b => key b ≤ key a).filter keep :=
  (rankedBy_mergeSort key _).unique ((rankedBy_mergeSort key xs).filter keep)

end SheetRecall
