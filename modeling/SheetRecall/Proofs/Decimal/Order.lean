import SheetRecall.Proofs.Decimal.Exact
import SheetRecall.Proofs.Value.Order

/-!
# Doubles in the Order of Their Numbers

Doubles compare by scale and mantissa, and integers with doubles by shifting one of them.  Either
way they compare as the numbers that they stand for.  What is calculated from them follows that
order, although it is rounded: numbers that differ may be rounded to the same double, but never to
two doubles in the other order.

## Main statements
- `Stands.compare_eq`, `compareInt_eq`: doubles and integers compare as their numbers.
- `le_iff_toRat_le`: finite doubles are ordered as their numbers.
- `toRat_sub_anti`, `toRat_div_mono`: differences and quotients follow the order.
- `lt_of_toRat_le`: what is below a number of either kind.
-/

namespace SheetRecall.Decimal

open Float.Model (UnpackedFloat)
open Float.Model.UnpackedFloat (Sign)

variable {x y : Float}

/-! ## Unpacked doubles -/

/-- Of two doubles the one with the greater scale is greater, whatever the mantissas are. -/
theorem scaled_lt_of_scale_lt {m n : ℕ} {e f : ℤ} (hm : m < 2 ^ 53) (he : -1074 ≤ e)
    (hn : 2 ^ 52 ≤ n ∨ f = -1074) (hlt : e < f) : (m : ℚ) * 2 ^ e < n * 2 ^ f := by
  have hn' : 2 ^ 52 ≤ n := hn.resolve_right (by omega)
  calc (m : ℚ) * 2 ^ e < 2 ^ 53 * 2 ^ e := by gcongr; exact_mod_cast hm
    _ = 2 ^ 52 * 2 ^ (e + 1) := by rw [zpow_add_one₀ two_ne_zero]; ring
    _ ≤ n * 2 ^ f := by
      gcongr
      · exact_mod_cast hn'
      · exact one_le_two
      · omega

theorem compare_scaled {m n : ℕ} {e f : ℤ} (hm : m < 2 ^ 53) (hn : n < 2 ^ 53) (he : -1074 ≤ e)
    (hf : -1074 ≤ f) (hm' : 2 ^ 52 ≤ m ∨ e = -1074) (hn' : 2 ^ 52 ≤ n ∨ f = -1074) :
    (compare e f).then (compare m n) = cmp ((m : ℚ) * 2 ^ e) (n * 2 ^ f) := by
  -- full mantissas make the larger exponent decide; at one exponent the mantissas do
  rcases lt_trichotomy e f with hlt | rfl | hgt
  · rw [Int.compare_eq_lt.mpr hlt, (cmp_eq_lt_iff _ _).mpr (scaled_lt_of_scale_lt hm he hn' hlt)]
    rfl
  · rw [Int.compare_eq_eq.mpr rfl]
    show compare m n = _
    have hscale : (0 : ℚ) < 2 ^ e := by positivity
    rcases lt_trichotomy m n with hlt | rfl | hgt
    · rw [Nat.compare_eq_lt.mpr hlt, eq_comm, cmp_eq_lt_iff]
      gcongr
    · rw [Nat.compare_eq_eq.mpr rfl, cmp_self_eq_eq]
    · rw [Nat.compare_eq_gt.mpr hgt, eq_comm, cmp_eq_gt_iff]
      gcongr
  · rw [Int.compare_eq_gt.mpr hgt, (cmp_eq_gt_iff _ _).mpr (scaled_lt_of_scale_lt hn hf hm' hgt)]
    rfl

/-- **What stands for numbers compares as they do.** -/
theorem Stands.compare_eq {a b : UnpackedFloat} {r s : ℚ} (ha : Stands a r) (hb : Stands b s) :
    a.compare b = some (cmp r s) := by
  -- a finite unpacked double is not zero, so the signs alone decide unless they agree
  have hpositive : ∀ {m : ℕ} (e : ℤ), 0 < m → (0 : ℚ) < m * 2 ^ e := by
    intro m e hm
    positivity
  have hlt : ∀ {r s : ℚ}, r < s → some .lt = some (cmp r s) :=
    fun h => congrArg some ((cmp_eq_lt_iff _ _).mpr h).symm
  have hgt : ∀ {r s : ℚ}, s < r → some .gt = some (cmp r s) :=
    fun h => congrArg some ((cmp_eq_gt_iff _ _).mpr h).symm
  cases ha with
  | zero s₁ =>
    cases hb with
    | zero s₂ => rfl
    | @finite s₂ n f hpos =>
      cases s₂ with
      | positive => exact hlt (hpositive f hpos)
      | negative => exact hgt (neg_lt_zero.mpr (hpositive f hpos))
  | @finite s₁ m e hpos hdigits hscale hfull =>
    cases hb with
    | zero s₂ =>
      cases s₁ with
      | positive => exact hgt (hpositive e hpos)
      | negative => exact hlt (neg_lt_zero.mpr (hpositive e hpos))
    | @finite s₂ n f hpos' hdigits' hscale' hfull' =>
      -- of equal signs the magnitudes decide, and between negatives the other way round
      have hcompare := compare_scaled hdigits hdigits' hscale hscale' hfull hfull'
      have hm := hpositive e hpos
      have hn := hpositive f hpos'
      cases s₁ <;> cases s₂
      case positive.positive => exact congrArg some hcompare
      case negative.negative =>
        show some ((compare e f).then (compare m n)).swap = some (cmp (-_) (-_))
        rw [hcompare, cmp_swap]
        exact congrArg some (StrictAnti.cmp_map_eq (fun _ _ => neg_lt_neg) _ _).symm
      case positive.negative => exact hgt ((neg_lt_zero.mpr hn).trans hm)
      case negative.positive => exact hlt ((neg_lt_zero.mpr hm).trans hn)

/-- Whatever stands for a number compares in the same way with what stands for none. -/
theorem Stands.compare_congr {a b : UnpackedFloat} {r s : ℚ} (ha : Stands a r) (hb : Stands b s)
    (sign : Sign) : a.compare (.infinity sign) = b.compare (.infinity sign)
      ∧ a.compare .notANumber = b.compare .notANumber := by
  have hrange : ∀ {u : UnpackedFloat} {t : ℚ}, Stands u t →
      u.compare (.infinity sign) = some (match sign with | .positive => .lt | .negative => .gt)
        ∧ u.compare .notANumber = none := by
    intro u t hu
    cases hu with
    | zero s₁ => cases sign <;> exact ⟨rfl, rfl⟩
    | finite s₁ => cases s₁ <;> cases sign <;> exact ⟨rfl, rfl⟩
  rw [(hrange ha).1, (hrange hb).1, (hrange ha).2, (hrange hb).2]
  exact ⟨rfl, rfl⟩

/-- Only zero is stood for in two ways. -/
theorem Stands.eq_of_ne_zero {a b : UnpackedFloat} {r s : ℚ} (ha : Stands a r) (hb : Stands b s)
    (hrs : r = s) (hr : r ≠ 0) : a = b := by
  -- equal values compare equal, and comparing equal fixes sign, mantissa and exponent
  have hcompare : a.compare b = some .eq := by
    rw [ha.compare_eq hb, (cmp_eq_eq_iff r s).mpr hrs]
  have hsame : ∀ {m n : ℕ} {e f : ℤ}, (compare e f).then (compare m n) = .eq → m = n ∧ e = f := by
    intro m n e f h
    rw [Ordering.then_eq_eq, Int.compare_eq_eq, Nat.compare_eq_eq] at h
    exact h.symm
  cases ha with
  | zero s₁ => exact absurd rfl hr
  | @finite s₁ m e =>
    cases hb with
    | zero s₂ => exact absurd hrs hr
    | @finite s₂ n f =>
      cases s₁ <;> cases s₂
      case positive.positive =>
        obtain ⟨rfl, rfl⟩ := hsame (Option.some.inj hcompare)
        rfl
      case negative.negative =>
        obtain ⟨rfl, rfl⟩ := hsame (Ordering.swap_eq_eq.mp (Option.some.inj hcompare))
        rfl
      case positive.negative => cases hcompare
      case negative.positive => cases hcompare

/-! ## Doubles -/

/-- Finite doubles are ordered as the numbers that they stand for. -/
theorem le_iff_toRat_le (hx : isFinite x = true) (hy : isFinite y = true) :
    x ≤ y ↔ toRat x ≤ toRat y := by
  have hle : x ≤ y ↔ (x.toModel.unpack.compare y.toModel.unpack).any (·.isLE) = true :=
    decide_eq_true_iff
  rw [hle, (stands_unpack hx).compare_eq (stands_unpack hy), Option.any_some]
  rcases lt_trichotomy (toRat x) (toRat y) with hlt | heq | hgt
  · rw [(cmp_eq_lt_iff _ _).mpr hlt]
    exact iff_of_true rfl hlt.le
  · rw [(cmp_eq_eq_iff _ _).mpr heq]
    exact iff_of_true rfl heq.le
  · rw [(cmp_eq_gt_iff _ _).mpr hgt]
    exact iff_of_false Bool.false_ne_true (not_le.mpr hgt)

/-- **The greater the double that is subtracted, the smaller is the difference.** -/
theorem toRat_sub_anti {c : Float} (hc : isFinite c = true) (hx : isFinite x = true)
    (hy : isFinite y = true) (hrangex : |toRat c - toRat x| < limit)
    (hrangey : |toRat c - toRat y| < limit) (hle : toRat x ≤ toRat y) :
    toRat (c - y) ≤ toRat (c - x) := by
  obtain ⟨hfinitex, hnearestx⟩ := nearest_sub hc hx hrangex
  obtain ⟨hfinitey, hnearesty⟩ := nearest_sub hc hy hrangey
  -- rounding to nearest keeps the order, but equal differences need the doubles to be the same
  refine hnearesty.le_of_le hnearestx (sub_le_sub_left hle _) fun heq => ?_
  replace heq : toRat y = toRat x := sub_right_inj.mp heq
  by_cases hzero : toRat y = 0
  · -- either zero leaves the first double as it is
    have hrepresentable := (stands_unpack hc).representable
    rw [← heq, hzero, sub_zero] at hnearestx
    rw [hzero, sub_zero] at hnearesty
    rw [hnearestx.eq_self hrepresentable, hnearesty.eq_self hrepresentable]
  · have hunpack := (stands_unpack hy).eq_of_ne_zero (stands_unpack hx) heq hzero
    exact toRat_eq_of_unpack_eq hfinitey hfinitex (congrArg (fun u => UnpackedFloat.unpack _
      (UnpackedFloat.pack _ (UnpackedFloat.sub _ c.toModel.unpack u))) hunpack)

/-- **The greater the double that is divided by a positive one, the greater is the quotient.** -/
theorem toRat_div_mono {c : Float} (hc : isFinite c = true) (hpos : 0 < toRat c)
    (hx : isFinite x = true) (hy : isFinite y = true)
    (hrangex : |toRat x / toRat c| < limit)
    (hrangey : |toRat y / toRat c| < limit) (hle : toRat x ≤ toRat y) :
    toRat (x / c) ≤ toRat (y / c) := by
  obtain ⟨hfinitex, hnearestx⟩ := nearest_div hx hc hpos.ne' hrangex
  obtain ⟨hfinitey, hnearesty⟩ := nearest_div hy hc hpos.ne' hrangey
  refine hnearestx.le_of_le hnearesty (div_le_div_of_nonneg_right hle hpos.le) fun heq => ?_
  replace heq : toRat x = toRat y := (div_left_inj' hpos.ne').mp heq
  by_cases hzero : toRat x = 0
  · have hrepresentable := (Stands.zero .positive).representable
    rw [← heq, hzero, zero_div] at hnearesty
    rw [hzero, zero_div] at hnearestx
    rw [hnearestx.eq_self hrepresentable, hnearesty.eq_self hrepresentable]
  · have hunpack := (stands_unpack hx).eq_of_ne_zero (stands_unpack hy) heq hzero
    exact toRat_eq_of_unpack_eq hfinitex hfinitey (congrArg (fun u => UnpackedFloat.unpack _
      (UnpackedFloat.pack _ (UnpackedFloat.div _ u c.toModel.unpack))) hunpack)

/-! ## Doubles beside other numbers -/

theorem signed_mul (neg : Bool) (m n : ℕ) : signed neg (m * n) = signed neg m * n := by
  cases neg with
  | false => exact Nat.cast_mul m n
  | true =>
    show -((m * n : ℕ) : ℤ) = -(m : ℤ) * n
    rw [Nat.cast_mul, neg_mul]

/-- An integer stands to a finite double as it stands to its number. -/
theorem compareInt_eq (n : ℤ) (hx : isFinite x = true) :
    compareInt n x = some (cmp (n : ℚ) (toRat x)) := by
  -- the doubles are compared with integers by clearing the scale, which keeps the order
  have hcast : ∀ a b : ℤ, compare a b = cmp (a : ℚ) b := by
    intro a b
    rw [Int.cast_strictMono.cmp_map_eq, cmp_eq_compare]
  obtain ⟨neg, m, q, hparts⟩ := exists_parts_of_isFinite hx
  rw [compareInt, toRat_of_parts hparts, hparts]
  dsimp only
  split
  -- a scale of at least one makes the double an integer
  case isTrue hq =>
    obtain ⟨k, rfl⟩ := Int.eq_ofNat_of_zero_le hq
    have hpower : powTwo (k : ℤ).toNat = 2 ^ k := congrArg (2 ^ ·) (Int.toNat_natCast k)
    rw [hcast, hpower, signed_mul, zpow_natCast]
    push_cast
    rfl
  case isFalse hq =>
    -- a smaller scale is cleared by multiplying both sides with it
    obtain ⟨k, hk⟩ := Int.eq_ofNat_of_zero_le (show 0 ≤ -q by omega)
    have hpower : Int.ofNat (powTwo (-q).toNat) = 2 ^ k := by
      rw [hk]
      exact Nat.cast_pow 2 k
    have hscale : (0 : ℚ) < 2 ^ k := by positivity
    have hsigned : (signed neg m : ℚ) * 2 ^ q * 2 ^ k = signed neg m := by
      rw [mul_assoc, ← zpow_natCast, ← zpow_add₀ two_ne_zero, ← hk, add_neg_cancel, zpow_zero,
        mul_one]
    rw [hcast, hpower, ← cmp_mul_pos_right hscale (n : ℚ), hsigned]
    push_cast
    rfl

/-- **What is below a number stays below it when it gets smaller**, whatever kind of number it
is. -/
theorem lt_of_toRat_le (hx : isFinite x = true) (hy : isFinite y = true)
    (hle : toRat x ≤ toRat y) {least : Number} (h : (Number.float y).lt least = true) :
    (Number.float x).lt least = true := by
  -- below any bound that a larger number is below
  have hbelow : ∀ {bound : ℚ}, some (cmp (toRat y) bound) = some .lt →
      some (cmp (toRat x) bound) = some .lt := by
    intro bound hlt
    exact congrArg some ((cmp_eq_lt_iff _ _).mpr
      (hle.trans_lt ((cmp_eq_lt_iff _ _).mp (Option.some.inj hlt))))
  rw [Number.lt, beq_iff_eq] at h ⊢
  cases least with
  | int n =>
    rw [Number.compare, compareInt_eq n hy, Option.map_some, cmp_swap] at h
    rw [Number.compare, compareInt_eq n hx, Option.map_some, cmp_swap]
    exact hbelow h
  | float z =>
    rw [Number.compare, Number.compareFloats_eq] at h ⊢
    by_cases hz : isFinite z = true
    · rw [(stands_unpack hy).compare_eq (stands_unpack hz)] at h
      rw [(stands_unpack hx).compare_eq (stands_unpack hz)]
      exact hbelow h
    · -- all finite doubles stand to one that is not finite in the same way
      have hcongr := (stands_unpack hx).compare_congr (stands_unpack hy)
      rw [unpack_eq z] at h ⊢
      cases hparts : parts z with
      | finite neg m q => exact absurd (by rw [isFinite, hparts]) hz
      | nan =>
        rw [hparts] at h
        exact (hcongr .positive).2.trans h
      | infinite neg =>
        rw [hparts] at h
        exact (hcongr (signOf neg)).1.trans h

end SheetRecall.Decimal
