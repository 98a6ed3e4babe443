import Mathlib.Algebra.BigOperators.Ring.Finset
import Mathlib.Data.List.Perm.Subperm
import SheetRecall.Catalog.Ranking
import SheetRecall.Proofs.Entries

/-!
# Counts of Values

The values of a field are offered as texts.  A text has the sum of the counts of all rows whose
values are offered under it, whatever kinds these values are of.

## Main statements
- `totals_eq_map`: every text once, with the sum of its counts.
- `mem_rank_iff`: what is offered, if the limit leaves nothing out.
-/

namespace SheetRecall.Catalog

/-! ## Sums -/

/-- The sum of the counts of a text. -/
def total (counts : List (String × Int)) (text : String) : Int :=
  ((counts.filter fun count => count.1 = text).map (·.2)).sum

/-- Helper: counts added one after the other. -/
theorem foldl_add_eq (ns : List Int) (n : Int) :
    ns.foldl (fun sum m => some (sum.getD 0 + m)) (some n) = some (n + ns.sum) := by
  induction ns generalizing n with
  | nil => simp
  | cons m rest ih =>
    rw [List.foldl_cons, Option.getD_some, ih, List.sum_cons, Int.add_assoc]

/-- **Every text has the sum of its counts**; texts come in the order in which they first appear. -/
theorem totals_eq_map (counts : List (String × Int)) :
    totals counts = (counts.map (·.1)).eraseDups.map fun text => (text, total counts text) := by
  refine Entries.foldl_alter_eq_map (fun n sum => sum.getD 0 + n) counts _ ?_
  intro text n ns hcounts
  rw [Option.getD_none, Int.zero_add, foldl_add_eq, total, hcounts, List.sum_cons]

theorem mem_totals_iff (counts : List (String × Int)) (text : String) (n : Int) :
    (text, n) ∈ totals counts ↔ text ∈ counts.map (·.1) ∧ n = total counts text := by
  rw [totals_eq_map, List.mem_map]
  constructor
  · rintro ⟨other, hmem, hpair⟩
    obtain ⟨rfl, rfl⟩ := Prod.mk.inj hpair
    exact ⟨List.mem_eraseDups.mp hmem, rfl⟩
  · rintro ⟨hmem, rfl⟩
    exact ⟨text, List.mem_eraseDups.mpr hmem, rfl⟩

/-- There are no more texts than counts. -/
theorem length_totals_le (counts : List (String × Int)) :
    (totals counts).length ≤ counts.length := by
  -- the texts are some of those in the counts, and none is there twice
  have hnodup : ((totals counts).map (·.1)).Nodup :=
    Entries.nodup_names_foldl_alter (fun n sum => sum.getD 0 + n) counts
  have hsubset : (totals counts).map (·.1) ⊆ counts.map (·.1) := by
    intro text htext
    obtain ⟨⟨other, n⟩, hmem, rfl⟩ := List.mem_map.mp htext
    exact ((mem_totals_iff counts other n).mp hmem).1
  have hlength := (hnodup.subperm hsubset).length_le
  rwa [List.length_map, List.length_map] at hlength

/-- A limit that is not below the number of texts leaves none out. -/
theorem mem_mostFrequent_iff {totals : TopValues} {limit : Nat} (hlimit : totals.length ≤ limit)
    (entry : String × Int) : entry ∈ mostFrequent totals limit ↔ entry ∈ totals := by
  rw [mostFrequent, List.take_of_length_le (by simpa using hlimit)]
  exact (List.mergeSort_perm _ _).mem_iff

/-! ## Rows -/

/-- A row of counts: a value, and how often it occurs. -/
def countRow (row : Value × Nat) : Value := .map [(valueName, row.1), (countName, .int row.2)]

theorem countOf_countRow (row : Value × Nat) :
    countOf (countRow row) = .ok (some (offered row.1, (row.2 : Int))) := rfl

theorem mapM_countRow (rows : List (Value × Nat)) :
    (rows.map countRow).mapM countOf
      = .ok (rows.map fun row => some (offered row.1, (row.2 : Int))) := by
  induction rows with
  | nil => rfl
  | cons row rest ih =>
    rw [List.map_cons, List.mapM_cons, countOf_countRow, ih]
    rfl

/-- The rank of rows of counts is made of the totals of their texts. -/
theorem rank_countRow (rows : List (Value × Nat)) (limit : Int) :
    rank (rows.map countRow) (.int limit)
      = .ok (mostFrequent (totals (rows.map fun row => (offered row.1, (row.2 : Int))))
        limit.toNat) := by
  rw [rank, mapM_countRow]
  have hsome :
      (rows.map fun row => some (offered row.1, (row.2 : Int))).filterMap (fun count => count)
        = rows.map fun row => (offered row.1, (row.2 : Int)) := by
    simp [List.filterMap_map]
  rw [← hsome]
  rfl

/-- **What is offered**, if the limit leaves nothing out: each text of a value in the rows, with the
sum of the counts of all values with that text. -/
theorem exists_rank {rows : List (Value × Nat)} {limit : Int} (hlimit : rows.length ≤ limit) :
    ∃ values, rank (rows.map countRow) (.int limit) = .ok values
      ∧ ∀ text n, (text, n) ∈ values ↔ text ∈ rows.map (fun row => offered row.1)
        ∧ n = (((rows.filter fun row => offered row.1 = text).map (·.2)).sum : Nat) := by
  refine ⟨_, rank_countRow rows limit, fun text n => ?_⟩
  have hlength := length_totals_le (rows.map fun row => (offered row.1, (row.2 : Int)))
  rw [List.length_map] at hlength
  rw [mem_mostFrequent_iff (by omega), mem_totals_iff, List.map_map]
  refine and_congr_right fun _ => ?_
  rw [total, List.filter_map, List.map_map, Nat.cast_list_sum, List.map_map]
  rfl

end SheetRecall.Catalog
