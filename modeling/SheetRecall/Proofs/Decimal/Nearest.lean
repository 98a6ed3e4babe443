import Mathlib.Algebra.Order.Field.Power
import Mathlib.Algebra.Order.Ring.Rat
import Mathlib.Data.Nat.Log
import Mathlib.Tactic.Linarith
import Mathlib.Tactic.NormNum
import Mathlib.Tactic.Positivity
import Mathlib.Tactic.Ring
import Mathlib.Tactic.FieldSimp

/-!
# Nearest Representable Numbers

A double has 53 binary digits, at a scale that is not below the least one.  Whatever is calculated
with doubles is rounded to a number of that form than which no other one is closer.  Two numbers may
be as close as each other, but then the number that is rounded lies in their middle.  So greater
numbers are never rounded to smaller ones, in whatever way such ties are decided.

## Main statements
- `Nearest.le_of_lt`: of greater numbers the nearest ones are not smaller.
- `Nearest.abs_lt_of_abs_lt_limit`: numbers below the limit stay in the range of doubles.
- `Nearest.of_scaled`: the nearest multiple of the right scale is the nearest number of all.
-/

namespace SheetRecall.Decimal

/-! ## Representable numbers -/

/-- A number with 53 binary digits at most, of a scale that doubles have or of a greater one. -/
def Representable (x : ℚ) : Prop :=
  ∃ n q : ℤ, |n| < 2 ^ 53 ∧ -1074 ≤ q ∧ x = n * 2 ^ q

theorem Representable.neg {x : ℚ} (h : Representable x) : Representable (-x) := by
  obtain ⟨n, q, hn, hq, rfl⟩ := h
  exact ⟨-n, q, by rwa [abs_neg], hq, by push_cast; ring⟩

/-- With 53 digits at most, or as the least number that has more, a multiple is representable. -/
theorem representable_multiple {r : ℕ} {t : ℤ} (hr : r ≤ 2 ^ 53) (ht : -1074 ≤ t) :
    Representable (r * 2 ^ t) := by
  rcases hr.lt_or_eq with hlt | heq
  · refine ⟨r, t, ?_, ht, by norm_cast⟩
    rw [abs_of_nonneg (by positivity)]
    exact_mod_cast hlt
  · refine ⟨2 ^ 52, t + 1, by norm_num, by omega, ?_⟩
    rw [heq, zpow_add_one₀ two_ne_zero]
    push_cast
    ring

/-- The greatest double. -/
def greatest : ℚ := (2 ^ 53 - 1) * 2 ^ (971 : ℤ)

theorem representable_greatest : Representable greatest :=
  ⟨2 ^ 53 - 1, 971, by norm_num, by norm_num, by norm_num [greatest]⟩

/-- The least representable number that is greater than all doubles. -/
def doubleRange : ℚ := 2 ^ (1024 : ℤ)

/-- The middle between the two: from there on, numbers are rounded out of the range of doubles. -/
def limit : ℚ := greatest + 2 ^ (970 : ℤ)

theorem greatest_add_doubleRange : greatest + doubleRange = 2 * limit := by
  have hstep : (2 : ℚ) ^ (971 : ℤ) = 2 ^ (970 : ℤ) * 2 := zpow_add_one₀ two_ne_zero 970
  have hrange : doubleRange = 2 ^ 53 * 2 ^ (971 : ℤ) := zpow_add₀ two_ne_zero 53 971
  rw [hrange, limit, greatest, hstep]
  -- the power itself is too great to be calculated
  generalize (2 : ℚ) ^ (970 : ℤ) = half
  ring

theorem greatest_lt_doubleRange : greatest < doubleRange := by
  have hpos : (0 : ℚ) < 2 ^ (970 : ℤ) := by positivity
  have hlimit : greatest < limit := lt_add_of_pos_right _ hpos
  linarith [greatest_add_doubleRange]

theorem greatest_add_two_lt_limit : greatest + 2 < limit := by
  rw [limit, add_lt_add_iff_left]
  calc (2 : ℚ) = 2 ^ (1 : ℤ) := (zpow_one _).symm
    _ < 2 ^ (970 : ℤ) := zpow_lt_zpow_right₀ one_lt_two (by norm_num)

/-- The second number is representable, and no representable number is closer to the first one. -/
structure Nearest (x y : ℚ) : Prop where
  representable : Representable y
  closest : ∀ z, Representable z → |x - y| ≤ |x - z|

/-! ## Nearest numbers -/

namespace Nearest

variable {x x' y y' : ℚ}

theorem neg (h : Nearest x y) : Nearest (-x) (-y) := by
  refine ⟨h.representable.neg, fun z hz => ?_⟩
  have hclosest := h.closest (-z) hz.neg
  rw [← abs_neg, ← abs_neg (-x - z)]
  convert hclosest using 2 <;> ring

/-- A representable number is nearest to itself. -/
theorem self (hx : Representable x) : Nearest x x := by
  refine ⟨hx, fun z _ => ?_⟩
  rw [sub_self, abs_zero]
  exact abs_nonneg _

/-- Nothing else is nearest to a representable number. -/
theorem eq_self (h : Nearest x y) (hx : Representable x) : y = x := by
  have hclosest := h.closest x hx
  rw [sub_self, abs_zero, abs_nonpos_iff, sub_eq_zero] at hclosest
  exact hclosest.symm

/-- Helper: a number is not below the middle of its nearest one and a smaller one. -/
theorem add_le_two_mul (h : Nearest x y) {z : ℚ} (hz : Representable z) (hzy : z < y) :
    z + y ≤ 2 * x := by
  by_contra hbelow
  have hcloser : |x - z| < y - x := abs_lt.mpr ⟨by linarith, by linarith⟩
  have hfar : y - x ≤ |x - y| := abs_sub_comm y x ▸ le_abs_self (y - x)
  linarith [h.closest z hz]

theorem two_mul_le_add (h : Nearest x y) {z : ℚ} (hz : Representable z) (hyz : y < z) :
    2 * x ≤ y + z := by
  have hneg := h.neg.add_le_two_mul hz.neg (neg_lt_neg hyz)
  linarith

/-- **Of greater numbers the nearest ones are not smaller.** -/
theorem le_of_lt (h : Nearest x y) (h' : Nearest x' y') (hlt : x < x') : y ≤ y' := by
  by_contra hgt
  rw [not_le] at hgt
  -- both numbers would have to lie in the middle of the two
  have hx := h.add_le_two_mul h'.representable hgt
  have hx' := h'.two_mul_le_add h.representable hgt
  linarith

/-- Helper: numbers that may be the same, if what is nearest to them is the same then. -/
theorem le_of_le (h : Nearest x y) (h' : Nearest x' y') (hle : x ≤ x') (heq : x = x' → y = y') :
    y ≤ y' := by
  rcases hle.lt_or_eq with hlt | hsame
  · exact h.le_of_lt h' hlt
  · exact (heq hsame).le

/-- A number below the limit is not rounded out of the range of doubles. -/
theorem lt_of_lt_limit (h : Nearest x y) (hx : x < limit) : y < doubleRange := by
  by_contra hy
  -- the greatest double would be nearer
  have hmiddle := h.add_le_two_mul representable_greatest (by linarith [greatest_lt_doubleRange])
  linarith [greatest_add_doubleRange]

theorem abs_lt_of_abs_lt_limit (h : Nearest x y) (hx : |x| < limit) : |y| < doubleRange := by
  rw [abs_lt] at hx
  have hneg := h.neg.lt_of_lt_limit (by linarith)
  exact abs_lt.mpr ⟨by linarith, h.lt_of_lt_limit hx.2⟩

/-! ## Multiples of a scale -/

section Scaled

variable {r : ℕ} {t : ℤ}

/-- The nearest of the multiples of a scale is at most half a step away. -/
theorem abs_sub_multiple_le (hclose : |x / 2 ^ t - r| ≤ 1 / 2) (k : ℤ) :
    |x - r * 2 ^ t| ≤ |x - k * 2 ^ t| := by
  have hscale : (0 : ℚ) < 2 ^ t := by positivity
  -- distances are counted in steps of `2 ^ t`, where `r` is the nearest whole number
  have hsteps : ∀ a : ℚ, |x - a * 2 ^ t| = |x / 2 ^ t - a| * 2 ^ t := by
    intro a
    rw [← abs_of_pos hscale, ← abs_mul, abs_of_pos hscale]
    congr 1
    field_simp
  rw [hsteps, hsteps]
  refine mul_le_mul_of_nonneg_right ?_ hscale.le
  by_cases hk : k = r
  · rw [hk, Int.cast_natCast]
  · -- another multiple is a whole step away from the nearest one
    have hstep : (1 : ℚ) ≤ |(r : ℚ) - k| := by
      have hne : (r : ℤ) - k ≠ 0 := sub_ne_zero.mpr (Ne.symm hk)
      exact_mod_cast Int.one_le_abs hne
    have htriangle := abs_sub_le (r : ℚ) (x / 2 ^ t) k
    rw [abs_sub_comm (r : ℚ) (x / 2 ^ t)] at htriangle
    linarith

/-- **The nearest multiple of a scale is the nearest number of all**, if the number has as many
digits as there are at that scale, or if there is no finer scale. -/
theorem of_scaled (hr : r ≤ 2 ^ 53) (ht : -1074 ≤ t)
    (hfull : t = -1074 ∨ (2 : ℚ) ^ 52 * 2 ^ t ≤ x) (hclose : |x / 2 ^ t - r| ≤ 1 / 2) :
    Nearest x (r * 2 ^ t) := by
  refine ⟨representable_multiple hr ht, ?_⟩
  rintro z ⟨n, q, hn, hq, rfl⟩
  -- a double either lies on the grid of `2 ^ t`, or has a finer scale than that
  rcases le_or_gt t q with hle | hlt
  · -- a coarser number is a multiple too
    have hcoarse : (n : ℚ) * 2 ^ q = ((n * 2 ^ (q - t).toNat : ℤ) : ℚ) * 2 ^ t := by
      push_cast
      rw [mul_assoc, ← zpow_natCast, ← zpow_add₀ two_ne_zero, Int.toNat_of_nonneg (by omega)]
      congr 2
      omega
    rw [hcoarse]
    exact abs_sub_multiple_le hclose _
  · -- a finer number has too few digits to come as close as the least multiple with 53 digits
    have hx : (2 : ℚ) ^ 52 * 2 ^ t ≤ x := hfull.resolve_left (by omega)
    have hn' : (n : ℚ) ≤ 2 ^ 53 := by exact_mod_cast (le_abs_self n).trans hn.le
    have hfine : (n : ℚ) * 2 ^ q ≤ 2 ^ 52 * 2 ^ t := by
      calc (n : ℚ) * 2 ^ q ≤ 2 ^ 53 * 2 ^ q := by gcongr
        _ = 2 ^ 52 * 2 ^ (q + 1) := by rw [zpow_add_one₀ two_ne_zero]; ring
        _ ≤ 2 ^ 52 * 2 ^ t := by gcongr; norm_num; omega
    have hleast := abs_sub_multiple_le hclose (2 ^ 52)
    rw [Int.cast_pow, Int.cast_ofNat, abs_of_nonneg (sub_nonneg.mpr hx)] at hleast
    refine hleast.trans (le_trans ?_ (le_abs_self _))
    linarith

end Scaled

end Nearest

end SheetRecall.Decimal
