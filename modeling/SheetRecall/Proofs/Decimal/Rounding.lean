import SheetRecall.Proofs.Decimal.Nearest

/-!
# Rounding Gives Nearest Numbers

The library calculates with doubles that are unpacked into sign, mantissa and exponent.  A result
has more digits than fit, or an infinity of them.  What is cut off is kept in two bits, one for the
first digit and one for whether any other digit is not zero, and by these the mantissa is rounded.
That is enough for the result to be nearest to the exact one.

## The two sides
- `Stands`: the number that an unpacked double of the right form stands for.
- `Approximates`: what a mantissa with its two bits tells of a number.
- `Rounds`: an unpacked double stands for a nearest number.

## Layers
- `Approximates.shiftRight`, `Approximates.abs_sub_rounded_le`: digits cut off, and rounding.
- `rounds_roundWithAccuracy`: rounding to the scale of doubles.
- `rounds_normalize`, `approximates_divCore`: what is rounded in a sum and in a quotient.
- `rounds_sub`, `rounds_div`: differences and quotients of unpacked doubles.
-/

namespace SheetRecall.Decimal

open Float.Model (UnpackedFloat Format totalExponent)
open Float.Model.UnpackedFloat (Sign Accuracy ExtendedMantissa)

/-! ## Unpacked doubles -/

/-- A number with a sign put before it. -/
def withSign : Sign → ℚ → ℚ
  | .positive, x => x
  | .negative, x => -x

theorem abs_withSign (s : Sign) (x : ℚ) : |withSign s x| = |x| := by
  cases s with
  | positive => rfl
  | negative => exact abs_neg x

theorem cast_apply (s : Sign) (n : ℤ) : ((s.apply n : ℤ) : ℚ) = withSign s n := by
  cases s with
  | positive => rfl
  | negative => exact Int.cast_neg n

theorem withSign_neg (s : Sign) (x : ℚ) : withSign (-s) x = -withSign s x := by
  cases s with
  | positive => rfl
  | negative => exact (neg_neg x).symm

theorem withSign_mul (s : Sign) (x y : ℚ) : withSign s (x * y) = withSign s x * y := by
  cases s with
  | positive => rfl
  | negative => exact (neg_mul x y).symm

/-- The unpacked double has the form that doubles have, with a scale that may be too great, and
stands for the number. -/
inductive Stands : UnpackedFloat → ℚ → Prop
  | zero (s : Sign) : Stands (.zero s) 0
  | finite (s : Sign) {m : ℕ} {e : ℤ} (hpos : 0 < m) (hdigits : m < 2 ^ 53) (hscale : -1074 ≤ e)
      (hfull : 2 ^ 52 ≤ m ∨ e = -1074) : Stands (.finite s m e hpos) (withSign s (m * 2 ^ e))

theorem Nearest.withSign {x y : ℚ} (h : Nearest x y) (s : Sign) :
    Nearest (withSign s x) (withSign s y) := by
  cases s with
  | positive => exact h
  | negative => exact h.neg

theorem Stands.representable {u : UnpackedFloat} {x : ℚ} (h : Stands u x) : Representable x := by
  cases h with
  | zero s => exact ⟨0, 0, by norm_num, by norm_num, by norm_num⟩
  | @finite s m e hpos hdigits hscale hfull =>
    have hm : Representable (m * 2 ^ e) := representable_multiple hdigits.le hscale
    cases s with
    | positive => exact hm
    | negative => exact hm.neg

theorem targetExponent_eq (e : ℤ) : Format.binary64.targetExponent e = max (e - 53) (-1074) := rfl

/-! ## Extended mantissas -/

/-- What a mantissa, its round bit and its sticky bit tell of a number. -/
inductive Approximates : ExtendedMantissa → ℚ → Prop
  | exact {m : ℕ} {x : ℚ} (h : x = m) : Approximates ⟨m, false, false⟩ x
  | below {m : ℕ} {x : ℚ} (hlow : m < x) (hhigh : x < m + 1 / 2) : Approximates ⟨m, false, true⟩ x
  | middle {m : ℕ} {x : ℚ} (h : x = m + 1 / 2) : Approximates ⟨m, true, false⟩ x
  | above {m : ℕ} {x : ℚ} (hlow : m + 1 / 2 < x) (hhigh : x < m + 1) :
      Approximates ⟨m, true, true⟩ x

namespace Approximates

variable {em : ExtendedMantissa} {x : ℚ}

theorem mantissa_le (h : Approximates em x) : em.mantissa ≤ x := by
  cases h <;> dsimp only <;> linarith

theorem lt_mantissa_add_one (h : Approximates em x) : x < em.mantissa + 1 := by
  cases h <;> dsimp only <;> linarith

/-- **The rounded mantissa is at most half a step away.** -/
theorem abs_sub_rounded_le (h : Approximates em x) : |x - em.roundedMantissa| ≤ 1 / 2 := by
  cases h with
  -- the two flags say on which side of the half the number lies
  | @exact m x h =>
    show |x - m| ≤ 1 / 2
    exact abs_le.mpr ⟨by linarith, by linarith⟩
  | @below m x hlow hhigh =>
    show |x - m| ≤ 1 / 2
    exact abs_le.mpr ⟨by linarith, by linarith⟩
  | @middle m x h =>
    -- of the two mantissas, which are as close, the even one is taken
    show |x - (m + m % 2 : ℕ)| ≤ 1 / 2
    have hbit : ((m % 2 : ℕ) : ℚ) ≤ 1 := by exact_mod_cast Nat.lt_succ_iff.mp (Nat.mod_lt m two_pos)
    have hbit' : (0 : ℚ) ≤ (m % 2 : ℕ) := Nat.cast_nonneg _
    rw [Nat.cast_add]
    exact abs_le.mpr ⟨by linarith, by linarith⟩
  | @above m x hlow hhigh =>
    show |x - (m + 1 : ℕ)| ≤ 1 / 2
    rw [Nat.cast_add_one]
    exact abs_le.mpr ⟨by linarith, by linarith⟩

/-- The digit that is shifted out goes to the round bit, and what was in the round bit to the
sticky bit. -/
theorem shiftRightOne (h : Approximates em x) : Approximates em.shiftRightOne (x / 2) := by
  -- the bit that is shifted out becomes the first of the two flags
  obtain ⟨m, round, sticky⟩ := em
  have hshift : ExtendedMantissa.shiftRightOne ⟨m, round, sticky⟩
      = ⟨m / 2, m % 2 != 0, round || sticky⟩ := rfl
  have hm : (m : ℚ) = 2 * (m / 2 : ℕ) + (m % 2 : ℕ) := by exact_mod_cast (Nat.div_add_mod m 2).symm
  rw [hshift]
  rcases Nat.mod_two_eq_zero_or_one m with hbit | hbit
  · -- an even mantissa loses nothing, so the number stays below the half or is met exactly
    rw [hbit, Nat.cast_zero] at hm
    rw [hbit]
    cases h with
    | exact h => exact exact (by linarith)
    | below hlow hhigh => exact below (by linarith) (by linarith)
    | middle h => exact below (by linarith) (by linarith)
    | above hlow hhigh => exact below (by linarith) (by linarith)
  · -- an odd one puts the number at the half or above it
    rw [hbit, Nat.cast_one] at hm
    rw [hbit]
    cases h with
    | exact h => exact middle (by linarith)
    | below hlow hhigh => exact above (by linarith) (by linarith)
    | middle h => exact above (by linarith) (by linarith)
    | above hlow hhigh => exact above (by linarith) (by linarith)

/-- A number of 53 digits is rounded to 53 digits, or up to the least number with more. -/
theorem rounded_le_of_lt {t : ℤ} (h : Approximates em (x / 2 ^ t)) (hx : x < 2 ^ (t + 53)) :
    em.roundedMantissa ≤ 2 ^ 53 := by
  have hdigits : x / 2 ^ t < 2 ^ 53 := by
    rw [div_lt_iff₀ (by positivity), mul_comm]
    rwa [zpow_add₀ two_ne_zero] at hx
  have hlt : (em.roundedMantissa : ℚ) < 2 ^ 53 + 1 := by
    linarith [(abs_le.mp h.abs_sub_rounded_le).1]
  exact Nat.lt_succ_iff.mp (by exact_mod_cast hlt)

theorem le_rounded_of_le {t : ℤ} (h : Approximates em (x / 2 ^ t)) (hx : 2 ^ 52 * 2 ^ t ≤ x) :
    2 ^ 52 ≤ em.roundedMantissa := by
  rw [← le_div_iff₀ (by positivity)] at hx
  have hlt : (2 : ℚ) ^ 52 < em.roundedMantissa + 1 := by
    linarith [(abs_le.mp h.abs_sub_rounded_le).2]
  exact Nat.lt_succ_iff.mp (by exact_mod_cast hlt)

theorem shiftRight (h : Approximates em x) (n : ℕ) : Approximates (em >>> n) (x / 2 ^ n) := by
  show Approximates (n.repeat ExtendedMantissa.shiftRightOne em) (x / 2 ^ n)
  induction n with
  | zero => simpa [Nat.repeat] using h
  | succ n ih =>
    rw [Nat.repeat, pow_succ, ← div_div]
    exact ih.shiftRightOne

end Approximates

/-! ## Rounding -/

/-- The unpacked double stands for a nearest number. -/
def Rounds (u : UnpackedFloat) (x : ℚ) : Prop := ∃ y, Stands u y ∧ Nearest x y

theorem Rounds.of_stands {u : UnpackedFloat} {x : ℚ} (h : Stands u x) : Rounds u x :=
  ⟨x, h, .self h.representable⟩

@[simp]
theorem mantissa_ofMantissaAndAccuracy (m : ℕ) (acc : Accuracy) :
    (ExtendedMantissa.ofMantissaAndAccuracy m acc).mantissa = m := by
  rcases acc with _ | _ | _ | _ <;> rfl

section Digits

variable {m : ℕ} {e : ℤ} {acc : Accuracy} {x : ℚ}

/-- A number is as great as the first digit of its mantissa says, if there is one. -/
theorem two_zpow_le_of_approximates (hx : Approximates (.ofMantissaAndAccuracy m acc) (x / 2 ^ e))
    (hm : m ≠ 0) : (2 : ℚ) ^ (m.log2 + e) ≤ x := by
  have hlow := hx.mantissa_le
  rw [mantissa_ofMantissaAndAccuracy] at hlow
  rw [zpow_add₀ two_ne_zero, ← le_div_iff₀ (by positivity), zpow_natCast]
  refine le_trans ?_ hlow
  exact_mod_cast Nat.log2_self_le hm

theorem lt_two_zpow_of_approximates (hx : Approximates (.ofMantissaAndAccuracy m acc) (x / 2 ^ e)) :
    x < 2 ^ totalExponent m e := by
  have hhigh := hx.lt_mantissa_add_one
  rw [mantissa_ofMantissaAndAccuracy] at hhigh
  rw [totalExponent, zpow_add₀ two_ne_zero, ← div_lt_iff₀ (by positivity)]
  refine hhigh.trans_le ?_
  exact_mod_cast Nat.lt_log2_self (n := m)

end Digits

theorem shiftToTargetExponent_eq {m : ℕ} {e : ℤ} (acc : Accuracy) {n : ℕ}
    (hn : (Format.binary64.targetExponent (totalExponent m e) - e).toNat = n) :
    UnpackedFloat.shiftToTargetExponent Format.binary64 m e acc
      = (ExtendedMantissa.ofMantissaAndAccuracy m acc >>> n, e + n) := by
  rw [← hn]
  rfl

/-- A mantissa that is rounded up to 54 digits loses the last one, which is zero. -/
theorem shiftToTargetExponent_rounded {r : ℕ} {t : ℤ} (hr : r ≤ 2 ^ 53) (ht : -1074 ≤ t) :
    let shifted := UnpackedFloat.shiftToTargetExponent Format.binary64 r t .exact
    (shifted.1.mantissa, shifted.2) = if r = 2 ^ 53 then (2 ^ 52, t + 1) else (r, t) := by
  -- the shift is settled by how many digits the mantissa has
  have hshift : ∀ n : ℕ, (max (r.log2 + 1 + t - 53) (-1074) - t).toNat = n →
      UnpackedFloat.shiftToTargetExponent Format.binary64 r t .exact
        = (ExtendedMantissa.ofMantissaAndAccuracy r .exact >>> n, t + n) :=
    fun n hn => shiftToTargetExponent_eq .exact hn
  split
  -- rounding up can carry into a digit more, which only a power of two does
  case isTrue hcarry =>
    subst hcarry
    rw [hshift 1 (by rw [Nat.log2_two_pow]; omega)]
    rfl
  case isFalse hcarry =>
    have hlog : r.log2 < 53 := by
      by_cases hzero : r = 0
      · rw [hzero]
        decide
      · exact (Nat.log2_lt hzero).mpr (by omega)
    rw [hshift 0 (by omega), Int.natCast_zero, add_zero]
    rfl

/-- A rounded mantissa stands for itself, whether or not it has to lose its last digit. -/
theorem stands_shiftToTargetExponent (s : Sign) {r : ℕ} {t : ℤ} (hr : r ≤ 2 ^ 53)
    (ht : -1074 ≤ t) (hfull : 2 ^ 52 ≤ r ∨ t = -1074) :
    let shifted := UnpackedFloat.shiftToTargetExponent Format.binary64 r t .exact
    Stands (if h : shifted.1.mantissa = 0 then .zero s
      else .finite s shifted.1.mantissa shifted.2 (Nat.pos_of_ne_zero h))
      (withSign s (r * 2 ^ t)) := by
  intro shifted
  -- only what the shift gives counts from here on, not how it is computed
  have hshifted : (shifted.1.mantissa, shifted.2) = _ := shiftToTargetExponent_rounded hr ht
  clear_value shifted
  obtain ⟨⟨m, _, _⟩, e⟩ := shifted
  dsimp only at hshifted ⊢
  split at hshifted
  -- after a carry the mantissa has a digit too many, and is halved
  case isTrue hcarry =>
    obtain ⟨rfl, rfl⟩ := Prod.mk.inj hshifted
    have hvalue : (r : ℚ) * 2 ^ t = (2 ^ 52 : ℕ) * 2 ^ (t + 1) := by
      rw [hcarry, zpow_add_one₀ two_ne_zero]
      push_cast
      ring
    rw [dif_neg (by norm_num), hvalue]
    exact .finite s _ (by norm_num) (by omega) (.inl le_rfl)
  case isFalse hcarry =>
    obtain ⟨rfl, rfl⟩ := Prod.mk.inj hshifted
    -- a mantissa of zero stands for a zero of either sign
    by_cases hzero : m = 0
    · rw [dif_pos hzero, hzero, Nat.cast_zero, zero_mul]
      cases s with
      | positive => exact .zero _
      | negative => exact neg_zero (G := ℚ) ▸ .zero _
    · rw [dif_neg hzero]
      exact .finite s _ (by omega) ht hfull

/-- **Rounding gives a nearest number**, if the scale is fine enough to begin with. -/
theorem rounds_roundWithAccuracy (s : Sign) {m : ℕ} {e : ℤ} {acc : Accuracy} {x : ℚ}
    (hx : Approximates (.ofMantissaAndAccuracy m acc) (x / 2 ^ e))
    (he : e ≤ Format.binary64.targetExponent (totalExponent m e)) :
    Rounds (UnpackedFloat.roundWithAccuracy Format.binary64 s m e acc) (withSign s x) := by
  obtain ⟨n, hn⟩ := Int.le.dest he
  have hshift := shiftToTargetExponent_eq acc (m := m) (e := e) (n := n) (by omega)
  have hlow := two_zpow_le_of_approximates hx
  have hhigh := lt_two_zpow_of_approximates hx
  rw [targetExponent_eq] at hn
  -- unless the scale is the least one, the number reaches the 53 digits of its scale
  have hfull : e + n = -1074 ∨ (2 : ℚ) ^ 52 * 2 ^ (e + n) ≤ x := by
    rw [totalExponent] at hn
    by_cases hleast : e + n = -1074
    · exact .inl hleast
    · have hm : m ≠ 0 := by
        rintro rfl
        rw [Nat.log2_zero] at hn
        omega
      refine .inr (le_of_eq_of_le ?_ (hlow hm))
      rw [← zpow_natCast, ← zpow_add₀ two_ne_zero]
      congr 1
      omega
  -- from here on only the shifted mantissa counts, and its scale
  have hem := hx.shiftRight n
  rw [div_div, ← zpow_natCast, ← zpow_add₀ two_ne_zero] at hem
  generalize ExtendedMantissa.ofMantissaAndAccuracy m acc >>> n = em at hshift hem
  have hr : em.roundedMantissa ≤ 2 ^ 53 :=
    hem.rounded_le_of_lt (hhigh.trans_le (zpow_le_zpow_right₀ one_le_two (by omega)))
  have hr' : 2 ^ 52 ≤ em.roundedMantissa ∨ e + n = -1074 :=
    hfull.symm.imp_left hem.le_rounded_of_le
  have hstands := stands_shiftToTargetExponent s hr (by omega) hr'
  have hnearest := Nearest.of_scaled hr (by omega) hfull hem.abs_sub_rounded_le
  rw [UnpackedFloat.roundWithAccuracy, hshift]
  exact ⟨_, hstands, hnearest.withSign s⟩

/-! ## Operations -/

theorem cast_shiftLeft (m : ℕ) (e : ℤ) (k : ℕ) :
    ((m <<< k : ℕ) : ℚ) = m * 2 ^ e / 2 ^ (e - k) := by
  rw [Nat.shiftLeft_eq, zpow_sub₀ two_ne_zero, zpow_natCast]
  push_cast
  field_simp

theorem log2_shiftLeft {m : ℕ} (hm : m ≠ 0) (k : ℕ) : (m <<< k).log2 = m.log2 + k := by
  induction k with
  | zero => rfl
  | succ k ih =>
    have hk : m <<< k ≠ 0 := by
      rw [Nat.shiftLeft_eq]
      positivity
    rw [Nat.shiftLeft_succ, Nat.log2_two_mul hk, ih, Nat.add_assoc]

/-- A mantissa is rounded at any scale. -/
theorem rounds_round (s : Sign) {m : ℕ} (hm : m ≠ 0) (e : ℤ) :
    Rounds (UnpackedFloat.round Format.binary64 s m e) (withSign s (m * 2 ^ e)) := by
  generalize hk : (e - Format.binary64.targetExponent (totalExponent m e)).toNat = k
  -- a finer scale is no other number of digits
  have htotal : totalExponent (m <<< k) (e - k) = totalExponent m e := by
    rw [totalExponent, totalExponent, log2_shiftLeft hm]
    push_cast
    ring
  have hexact : Approximates (.ofMantissaAndAccuracy (m <<< k) .exact) (m * 2 ^ e / 2 ^ (e - k)) :=
    .exact (cast_shiftLeft m e k).symm
  have hround := rounds_roundWithAccuracy s hexact (by rw [htotal]; omega)
  subst hk
  exact hround

theorem rounds_normalize (n e : ℤ) (s : Sign) :
    Rounds (UnpackedFloat.normalize Format.binary64 n e s) (n * 2 ^ e) := by
  -- the sign is taken off before rounding, and a zero gets the one that is asked for
  rcases lt_trichotomy n 0 with hneg | rfl | hpos
  · have hround := rounds_round .negative (m := (-n).toNat) (by omega) e
    have hcast : (((-n).toNat : ℕ) : ℚ) = -n := by
      exact_mod_cast Int.toNat_of_nonneg (by omega : 0 ≤ -n)
    rw [hcast, withSign, neg_mul, neg_neg] at hround
    rw [UnpackedFloat.normalize, Int.compare_eq_lt.mpr hneg]
    exact hround
  · rw [Int.cast_zero, zero_mul]
    exact .of_stands (.zero s)
  · have hround := rounds_round .positive (m := n.toNat) (by omega) e
    have hcast : ((n.toNat : ℕ) : ℚ) = n := by
      exact_mod_cast Int.toNat_of_nonneg hpos.le
    rw [hcast, withSign] at hround
    rw [UnpackedFloat.normalize, Int.compare_eq_gt.mpr hpos]
    exact hround

/-- **Subtraction rounds the difference.** -/
theorem rounds_sub {a b : UnpackedFloat} {x y : ℚ} (ha : Stands a x) (hb : Stands b y) :
    Rounds (UnpackedFloat.sub Format.binary64 a b) (x - y) := by
  cases hb with
  -- a zero on either side leaves the other operand as it is, up to its sign
  | zero s₂ =>
    rw [sub_zero]
    cases ha with
    | zero s₁ => cases s₁ <;> cases s₂ <;> exact .of_stands (.zero _)
    | finite s₁ hpos hdigits hscale hfull =>
      exact .of_stands (.finite s₁ hpos hdigits hscale hfull)
  | @finite s₂ m₂ e₂ hpos₂ hdigits₂ hscale₂ hfull₂ =>
    cases ha with
    | zero s₁ =>
      rw [zero_sub, ← withSign_neg]
      exact .of_stands (.finite (-s₂) hpos₂ hdigits₂ hscale₂ hfull₂)
    | @finite s₁ m₁ e₁ hpos₁ hdigits₁ hscale₁ hfull₁ =>
      -- both mantissas are taken to the finer scale
      have hcommon : ∀ (s : Sign) (m : ℕ) (e : ℤ), min e₁ e₂ ≤ e →
          (s.apply (m <<< (e - min e₁ e₂).toNat : ℕ) : ℚ) * 2 ^ min e₁ e₂
            = withSign s (m * 2 ^ e) := by
        intro s m e he
        rw [cast_apply, Int.cast_natCast, cast_shiftLeft m e, ← withSign_mul,
          Int.toNat_of_nonneg (by omega), sub_sub_cancel, div_mul_cancel₀ _ (by positivity)]
      rw [← hcommon s₁ m₁ e₁ (min_le_left _ _), ← hcommon s₂ m₂ e₂ (min_le_right _ _), ← sub_mul,
        ← Int.cast_sub]
      exact rounds_normalize _ _ .positive

/-- What is left of a division tells how accurate the quotient is. -/
theorem approximates_accuracyOfFraction (q : ℕ) {n d : ℕ} (hn : n < d) :
    Approximates (.ofMantissaAndAccuracy q (UnpackedFloat.accuracyOfFraction n d)) (q + n / d) := by
  have hd : (0 : ℚ) < d := by exact_mod_cast Nat.zero_lt_of_lt hn
  have hone : (n : ℚ) / d < 1 := by
    rw [div_lt_one hd]
    exact_mod_cast hn
  rw [UnpackedFloat.accuracyOfFraction]
  split
  -- nothing is left over
  case isTrue hzero =>
    rw [hzero, Nat.cast_zero, zero_div, add_zero]
    exact .exact rfl
  case isFalse hzero =>
    have hpos : (0 : ℚ) < n / d := by
      have hn : (0 : ℚ) < n := by exact_mod_cast Nat.pos_of_ne_zero hzero
      positivity
    -- the rest is compared with half of the divisor
    rcases lt_trichotomy (2 * n) d with hlt | heq | hgt
    · rw [Nat.compare_eq_lt.mpr hlt]
      refine .below (by linarith) (add_lt_add_right ?_ _)
      rw [div_lt_div_iff₀ hd two_pos]
      exact_mod_cast (by omega : n * 2 < 1 * d)
    · rw [Nat.compare_eq_eq.mpr heq]
      refine .middle (congrArg _ ?_)
      rw [div_eq_div_iff hd.ne' two_ne_zero]
      exact_mod_cast (by omega : n * 2 = 1 * d)
    · rw [Nat.compare_eq_gt.mpr hgt]
      refine .above (add_lt_add_right ?_ _) (by linarith)
      rw [div_lt_div_iff₀ two_pos hd]
      exact_mod_cast (by omega : 1 * d < n * 2)

/-- A quotient with rest, of a mantissa that is taken to a finer scale. -/
theorem shiftLeft_div_eq (m₁ : ℕ) {m₂ : ℕ} (hm₂ : m₂ ≠ 0) (k : ℕ) :
    (m₁ : ℚ) * 2 ^ k / m₂ = (m₁ <<< k / m₂ : ℕ) + (m₁ <<< k % m₂ : ℕ) / m₂ := by
  have hm₂' : (m₂ : ℚ) ≠ 0 := Nat.cast_ne_zero.mpr hm₂
  have hcast : (m₁ : ℚ) * 2 ^ k = (m₁ <<< k : ℕ) := by
    rw [Nat.shiftLeft_eq]
    push_cast
    rfl
  have hrest : ((m₁ <<< k : ℕ) : ℚ) = m₂ * (m₁ <<< k / m₂ : ℕ) + (m₁ <<< k % m₂ : ℕ) := by
    exact_mod_cast (Nat.div_add_mod (m₁ <<< k) m₂).symm
  rw [hcast, hrest]
  field_simp

theorem two_pow_le_shiftLeft_div {m₁ m₂ k : ℕ} (hm₁ : m₁ ≠ 0) (hm₂ : m₂ ≠ 0)
    (hk : 52 + (m₂.log2 + 1) ≤ m₁.log2 + k) : 2 ^ 52 ≤ m₁ <<< k / m₂ := by
  rw [Nat.le_div_iff_mul_le (Nat.pos_of_ne_zero hm₂), Nat.shiftLeft_eq]
  calc 2 ^ 52 * m₂ ≤ 2 ^ 52 * 2 ^ (m₂.log2 + 1) := by gcongr; exact Nat.lt_log2_self.le
    _ = 2 ^ (52 + (m₂.log2 + 1)) := (pow_add _ _ _).symm
    _ ≤ 2 ^ (m₁.log2 + k) := Nat.pow_le_pow_right two_pos hk
    _ = 2 ^ m₁.log2 * 2 ^ k := pow_add _ _ _
    _ ≤ m₁ * 2 ^ k := by gcongr; exact Nat.log2_self_le hm₁

/-- The first digits of a quotient approximate it, and there are enough of them to be rounded. -/
theorem approximates_divCore {m₁ m₂ : ℕ} (hm₁ : m₁ ≠ 0) (hm₂ : m₂ ≠ 0) (e₁ e₂ : ℤ) :
    let quotient := UnpackedFloat.divCore Format.binary64 m₁ e₁ m₂ e₂
    Approximates (.ofMantissaAndAccuracy quotient.1 quotient.2.2)
        (m₁ * 2 ^ e₁ / (m₂ * 2 ^ e₂) / 2 ^ quotient.2.1)
      ∧ quotient.2.1 ≤ Format.binary64.targetExponent (totalExponent quotient.1 quotient.2.1) := by
  intro quotient
  -- `t` is the scale of the quotient and `k` how far the dividend is shifted for it
  obtain ⟨t, ht⟩ : ∃ t, t = min (e₁ - e₂) (Format.binary64.targetExponent
      (totalExponent m₁ e₁ - totalExponent m₂ e₂)) := ⟨_, rfl⟩
  obtain ⟨k, hk⟩ : ∃ k : ℕ, e₁ - e₂ - t = k := Int.eq_ofNat_of_zero_le (by omega)
  have hquotient : quotient
      = (m₁ <<< k / m₂, t, UnpackedFloat.accuracyOfFraction (m₁ <<< k % m₂) m₂) := by
    have hk' : (e₁ - e₂ - t).toNat = k := by omega
    rw [← hk', ht]
    rfl
  clear_value quotient
  subst hquotient
  constructor
  · -- the shifted dividend has the value to be divided, counted in steps of the new scale
    have hscales : (m₁ : ℚ) * 2 ^ e₁ / (m₂ * 2 ^ e₂) / 2 ^ t = m₁ * 2 ^ k / m₂ := by
      have he₁ : (2 : ℚ) ^ e₁ = 2 ^ k * 2 ^ e₂ * 2 ^ t := by
        rw [← zpow_natCast, ← zpow_add₀ two_ne_zero, ← zpow_add₀ two_ne_zero]
        congr 1
        omega
      rw [he₁]
      field_simp
    rw [hscales, shiftLeft_div_eq m₁ hm₂]
    exact approximates_accuracyOfFraction _ (Nat.mod_lt _ (Nat.pos_of_ne_zero hm₂))
  · show t ≤ Format.binary64.targetExponent (totalExponent (m₁ <<< k / m₂) t)
    rw [targetExponent_eq, totalExponent] at ht ⊢
    by_cases hleast : t ≤ -1074
    · omega
    · -- at a scale that is not the least one, the quotient has 53 digits
      rw [totalExponent] at ht
      have hdigits := two_pow_le_shiftLeft_div hm₁ hm₂ (k := k) (by omega)
      have hlog := (Nat.le_log2 (by omega)).mpr hdigits
      omega

/-- **Division rounds the quotient.** -/
theorem rounds_div {a b : UnpackedFloat} {x y : ℚ} (ha : Stands a x) (hb : Stands b y)
    (hy : y ≠ 0) : Rounds (UnpackedFloat.div Format.binary64 a b) (x / y) := by
  cases hb with
  | zero s₂ => exact absurd rfl hy
  | @finite s₂ m₂ e₂ hpos₂ hdigits₂ hscale₂ hfull₂ =>
    cases ha with
    | zero s₁ =>
      rw [zero_div]
      exact .of_stands (.zero _)
    -- the signs are divided apart from the magnitudes
    | @finite s₁ m₁ e₁ hpos₁ hdigits₁ hscale₁ hfull₁ =>
      have hsign : withSign s₁ (m₁ * 2 ^ e₁) / withSign s₂ (m₂ * 2 ^ e₂)
          = withSign (s₁ / s₂) (m₁ * 2 ^ e₁ / (m₂ * 2 ^ e₂)) := by
        cases s₁ <;> cases s₂ <;> simp only [withSign, neg_div, div_neg, neg_neg] <;> rfl
      obtain ⟨happroximates, hscale⟩ := approximates_divCore hpos₁.ne' hpos₂.ne' e₁ e₂
      rw [hsign]
      exact rounds_roundWithAccuracy (s₁ / s₂) happroximates hscale

end SheetRecall.Decimal
