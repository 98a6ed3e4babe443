import SheetRecall.Proofs.Decimal.Order
import SheetRecall.Query.Relevance

/-!
# Relevance Falls with Distance

The relevance of a distance is calculated in two steps, and both of them round.  Every finite
distance has a finite relevance, and of two distances the greater one has no greater relevance.

## Main statements
- `isFinite_relevance`: neither step leaves the range of doubles.
- `toRat_relevance_anti`: what is farther is not more relevant.
-/

namespace SheetRecall.Query

open SheetRecall.Decimal

variable {d d' : Float}

theorem isFinite_two : isFinite 2.0 = true := by decide +kernel

theorem toRat_two : toRat 2.0 = 2 := by
  have hparts : parts 2.0 = .finite false (2 ^ 52) (-51) := by decide +kernel
  rw [toRat, hparts]
  norm_num [signed]

/-! ## Both steps are in range -/

theorem abs_two_sub_lt_limit (hd : isFinite d = true) : |toRat 2.0 - toRat d| < limit := by
  have hlimit := greatest_add_two_lt_limit
  have hrange := abs_le.mp (abs_toRat_le hd)
  rw [toRat_two, abs_lt]
  exact ⟨by linarith, by linarith⟩

theorem abs_div_two_lt_limit (hd : isFinite d = true) : |toRat d / toRat 2.0| < limit := by
  have hlimit := greatest_add_two_lt_limit
  have hrange := abs_toRat_le hd
  rw [toRat_two, abs_div, abs_two]
  linarith [abs_nonneg (toRat d)]

theorem isFinite_two_sub (hd : isFinite d = true) : isFinite (2.0 - d) = true :=
  (nearest_sub isFinite_two hd (abs_two_sub_lt_limit hd)).1

theorem toRat_two_pos : 0 < toRat 2.0 := toRat_two ▸ two_pos

/-! ## Relevance -/

/-- The relevance of a finite distance is finite. -/
theorem isFinite_relevance (hd : isFinite d = true) : isFinite (relevance d) = true := by
  have hrange := abs_div_two_lt_limit (isFinite_two_sub hd)
  exact (nearest_div (isFinite_two_sub hd) isFinite_two toRat_two_pos.ne' hrange).1

/-- **What is farther is not more relevant.** -/
theorem toRat_relevance_anti (hd : isFinite d = true) (hd' : isFinite d' = true)
    (hle : toRat d ≤ toRat d') : toRat (relevance d') ≤ toRat (relevance d) := by
  have hsub : toRat (2.0 - d') ≤ toRat (2.0 - d) :=
    toRat_sub_anti isFinite_two hd hd' (abs_two_sub_lt_limit hd) (abs_two_sub_lt_limit hd') hle
  have hfinite := isFinite_two_sub hd
  have hfinite' := isFinite_two_sub hd'
  exact toRat_div_mono isFinite_two toRat_two_pos hfinite' hfinite
    (abs_div_two_lt_limit hfinite') (abs_div_two_lt_limit hfinite) hsub

end SheetRecall.Query
