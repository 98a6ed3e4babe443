import Mathlib
import SheetRecall.Proofs.Decimal.Binary
import SheetRecall.Proofs.Decimal.Rounding

/-!
# Doubles and Exact Numbers

A finite double stands for one number exactly.  It unpacks to what stands for that number, and what
stands for a number in the range of doubles is packed into a double without loss.  So a difference
or a quotient of doubles is the double nearest to that of the numbers, unless that is out of range.

## Main statements
- `stands_unpack`: a double unpacks to what stands for its number.
- `unpack_pack`: nothing is lost by packing.
- `nearest_sub`, `nearest_div`: what is calculated with doubles.
-/

namespace SheetRecall.Decimal

open Float.Model (UnpackedFloat Format)
open Float.Model.UnpackedFloat (Sign)

/-! ## Exact numbers -/

/-- The number that a finite double stands for. -/
def toRat (x : Float) : ℚ :=
  match parts x with
  | .finite neg m q => signed neg m * 2 ^ q
  | _ => 0

variable {x y : Float}

theorem exists_parts_of_isFinite (hx : isFinite x = true) :
    ∃ neg m q, parts x = .finite neg m q := by
  rw [isFinite] at hx
  cases hparts : parts x with
  | nan => rw [hparts] at hx; cases hx
  | infinite neg => rw [hparts] at hx; cases hx
  | finite neg m q => exact ⟨neg, m, q, rfl⟩

theorem toRat_of_parts {neg : Bool} {m : ℕ} {q : ℤ} (h : parts x = .finite neg m q) :
    toRat x = signed neg m * 2 ^ q := by
  rw [toRat, h]

theorem withSign_signOf (neg : Bool) (m : ℕ) (q : ℤ) :
    withSign (signOf neg) (m * 2 ^ q) = signed neg m * 2 ^ q := by
  cases neg with
  | false => rw [signed, if_neg Bool.false_ne_true, Int.cast_natCast]; rfl
  | true => rw [signed, if_pos rfl, Int.cast_neg, Int.cast_natCast, neg_mul]; rfl

/-- The parts of a finite double have the form that doubles have. -/
theorem bounds_of_parts {neg : Bool} {m : ℕ} {q : ℤ} (h : parts x = .finite neg m q) :
    m < 2 ^ 53 ∧ -1074 ≤ q ∧ q ≤ 971 ∧ (2 ^ 52 ≤ m ∨ q = -1074) := by
  -- the fields are 52 and 11 bits wide, so the bounds are linear in them
  have hfraction : x.toBits.toNat % powTwo 52 < 2 ^ 52 := Nat.mod_lt _ (by decide)
  have hexponent : x.toBits.toNat / powTwo 52 % powTwo 11 < 2 ^ 11 := Nat.mod_lt _ (by decide)
  have hpower : powTwo 52 = 2 ^ 52 := rfl
  simp only [parts] at h
  split at h
  case isTrue => split at h <;> cases h
  -- an exponent field of zero is a subnormal; any other has the implied leading bit
  case isFalse =>
    split at h
    case isTrue =>
      cases h
      omega
    case isFalse =>
      cases h
      rw [Int.ofNat_eq_natCast]
      omega

/-- A finite double is in the range of doubles. -/
theorem abs_toRat_le (hx : isFinite x = true) : |toRat x| ≤ greatest := by
  obtain ⟨neg, m, q, hparts⟩ := exists_parts_of_isFinite hx
  obtain ⟨hdigits, -, hscale, -⟩ := bounds_of_parts hparts
  have hm : (m : ℚ) ≤ 2 ^ 53 - 1 := by
    rw [le_sub_iff_add_le]
    exact_mod_cast hdigits
  rw [toRat_of_parts hparts, ← withSign_signOf, abs_withSign, abs_of_nonneg (by positivity),
    greatest]
  gcongr
  norm_num

/-! ## Unpacking -/

/-- **A finite double unpacks to what stands for its number.** -/
theorem stands_unpack (hx : isFinite x = true) : Stands x.toModel.unpack (toRat x) := by
  obtain ⟨neg, m, q, hparts⟩ := exists_parts_of_isFinite hx
  obtain ⟨hdigits, hscale, -, hfull⟩ := bounds_of_parts hparts
  rw [unpack_eq, toRat_of_parts hparts, hparts, ← withSign_signOf]
  dsimp only
  split
  case isTrue hzero =>
    rw [hzero, Nat.cast_zero, zero_mul]
    cases neg <;> exact .zero _
  case isFalse hzero => exact .finite _ _ hdigits hscale hfull

/-- Only a finite double unpacks to what stands for a number. -/
theorem isFinite_of_stands {r : ℚ} (h : Stands x.toModel.unpack r) : isFinite x = true := by
  rw [unpack_eq] at h
  rw [isFinite]
  cases hparts : parts x with
  | nan => rw [hparts] at h; cases h
  | infinite neg => rw [hparts] at h; cases h
  | finite neg m q => rfl

theorem Stands.unique {u : UnpackedFloat} {r s : ℚ} (hr : Stands u r) (hs : Stands u s) :
    r = s := by
  cases hr <;> cases hs <;> rfl

/-- Doubles that unpack to the same stand for the same number. -/
theorem toRat_eq_of_unpack_eq (hx : isFinite x = true) (hy : isFinite y = true)
    (h : x.toModel.unpack = y.toModel.unpack) : toRat x = toRat y :=
  (stands_unpack hx).unique (h ▸ stands_unpack hy)

/-! ## Packing -/

/-- What components are unpacked to, if they are those of a finite double. -/
theorem unpack_packComponents (s : Sign) {exponent : BitVec 11} {mantissa : BitVec 52}
    (hexponent : exponent.toNat < 2047) :
    UnpackedFloat.unpack Format.binary64
        (UnpackedFloat.packComponents Format.binary64 s exponent mantissa)
      = if exponent.toNat = 0 then
          if h : mantissa.toNat = 0 then .zero s
          else .finite s mantissa.toNat (-1074) (Nat.pos_of_ne_zero h)
        else .finite s (2 ^ 52 + mantissa.toNat) (exponent.toNat - 1075)
          (Nat.add_pos_left (Nat.two_pow_pos 52) _) := by
  -- unpacking looks at the exponent field for its two extreme values, and one of them is excluded
  have hones : exponent ≠ -1#_ := by
    rintro rfl
    exact absurd hexponent (by decide)
  have hzeros : exponent = 0#_ ↔ exponent.toNat = 0 := by
    rw [← BitVec.toNat_inj]
    rfl
  have hfraction : mantissa = 0#_ ↔ mantissa.toNat = 0 := by
    rw [← BitVec.toNat_inj]
    rfl
  delta UnpackedFloat.unpack
  simp only [UnpackedFloat.unpackExponent_packComponents,
    UnpackedFloat.unpackMantissa_packComponents, UnpackedFloat.unpackSign_packComponents,
    Sign.ofBitVec_toBitVec]
  rw [if_neg hones]
  -- a subnormal keeps its mantissa; a normal number gets the leading bit back
  by_cases hzero : exponent.toNat = 0
  · rw [if_pos (hzeros.mpr hzero), if_pos hzero, hzero]
    by_cases hnone : mantissa.toNat = 0
    · rw [dif_pos (hfraction.mpr hnone), dif_pos hnone]
    · rw [dif_neg (mt hfraction.mp hnone), dif_neg hnone]
      rfl
  · rw [if_neg (mt hzeros.mp hzero), if_neg hzero]
    refine finite_congr s ?_ rfl
    rw [BitVec.toNat_append, ← Nat.shiftLeft_add_eq_or_of_lt mantissa.isLt]
    rfl

/-- The first of 53 digits is left to the exponent, and comes back with it. -/
theorem unpack_packComponents_normal (s : Sign) {m biased : ℕ} (hpos : 0 < m)
    (hnormal : 2 ^ 52 ≤ m) (hdigits : m < 2 ^ 53) (hlow : 0 < biased) (hhigh : biased < 2047) :
    UnpackedFloat.unpack Format.binary64 (UnpackedFloat.packComponents Format.binary64 s
        (BitVec.ofNat 11 biased) (BitVec.ofNat 52 m))
      = .finite s m (biased - 1075) hpos := by
  have hexponent : (BitVec.ofNat 11 biased).toNat = biased := Nat.mod_eq_of_lt (by omega)
  have hmantissa : (BitVec.ofNat 52 m).toNat = m - 2 ^ 52 := by
    rw [BitVec.toNat_ofNat, Nat.mod_eq_sub_mod hnormal, Nat.mod_eq_of_lt (by omega)]
  rw [unpack_packComponents s (hexponent.trans_lt hhigh),
    if_neg (hexponent.trans_ne hlow.ne')]
  exact finite_congr s (by rw [hmantissa]; omega) (by rw [hexponent])

/-- With fewer digits a mantissa is stored as it is, at the least scale. -/
theorem unpack_packComponents_subnormal (s : Sign) {m : ℕ} (hpos : 0 < m) (hdigits : m < 2 ^ 52) :
    UnpackedFloat.unpack Format.binary64 (UnpackedFloat.packComponents Format.binary64 s
        0#11 (BitVec.ofNat 52 m))
      = .finite s m (-1074) hpos := by
  have hexponent : (0#11).toNat = 0 := rfl
  have hmantissa : (BitVec.ofNat 52 m).toNat = m := Nat.mod_eq_of_lt hdigits
  rw [unpack_packComponents s (by decide), if_pos hexponent, dif_neg (hmantissa.trans_ne hpos.ne')]
  exact finite_congr s hmantissa rfl

theorem scale_le_of_lt_doubleRange {m : ℕ} {e : ℤ} (hfull : 2 ^ 52 ≤ m ∨ e = -1074)
    (h : (m : ℚ) * 2 ^ e < doubleRange) : e ≤ 971 := by
  rcases hfull with hnormal | rfl
  · by_contra hgt
    have hlow : (2 : ℚ) ^ 52 * 2 ^ (972 : ℤ) ≤ m * 2 ^ e := by
      gcongr
      · exact_mod_cast hnormal
      · exact one_le_two
      · omega
    have hrange : doubleRange = 2 ^ 52 * 2 ^ (972 : ℤ) := zpow_add₀ two_ne_zero 52 972
    exact absurd h (not_lt.mpr (hrange ▸ hlow))
  · norm_num

/-- **What stands for a number in the range of doubles is not changed by packing.** -/
theorem unpack_pack {u : UnpackedFloat} {r : ℚ} (h : Stands u r) (hr : |r| < doubleRange) :
    UnpackedFloat.unpack Format.binary64 (UnpackedFloat.pack Format.binary64 u) = u := by
  cases h with
  | zero s => exact unpack_packComponents s (by decide)
  | @finite s m e hpos hdigits hscale hfull =>
    rw [abs_withSign, abs_of_nonneg (by positivity)] at hr
    -- a value below the largest double has an exponent that fits the field
    have hscale' := scale_le_of_lt_doubleRange hfull hr
    obtain ⟨biased, hbiased⟩ : ∃ b : ℕ, e + 1075 = b := Int.eq_ofNat_of_zero_le (by omega)
    have hbias : (e + Format.binary64.exponentBias
        + Format.binary64.mantissaBitsWithoutImplicit).toNat = biased := by
      show (e + 1023 + 52).toNat = biased
      omega
    have hfits : ¬ 2 ^ 11 ≤ biased + 1 := by omega
    rw [UnpackedFloat.pack, hbias, if_neg hfits]
    -- a mantissa of 53 bits is packed as a normal number, a shorter one as a subnormal
    by_cases hnormal : 2 ^ 52 ≤ m
    · have hlog : m.log2 + 1 = Format.binary64.mantissaBits :=
        congrArg (· + 1) ((Nat.log2_eq_iff hpos.ne').mpr ⟨hnormal, hdigits⟩)
      rw [if_pos hlog]
      refine (unpack_packComponents_normal s hpos hnormal hdigits (by omega) (by omega)).trans ?_
      exact finite_congr s rfl (by omega)
    · have hlog : ¬ m.log2 + 1 = Format.binary64.mantissaBits := by
        have hbits : Format.binary64.mantissaBits = 53 := rfl
        have hlt := (Nat.log2_lt hpos.ne').mpr (not_le.mp hnormal)
        omega
      rw [if_neg hlog]
      refine (unpack_packComponents_subnormal s hpos (not_le.mp hnormal)).trans ?_
      exact finite_congr s rfl (hfull.resolve_left hnormal).symm

/-! ## Operations on doubles -/

/-- A double that is packed from a rounded number is the double nearest to that number. -/
theorem nearest_of_rounds {u : UnpackedFloat} {r : ℚ} (h : Rounds u r) (hr : |r| < limit)
    (hx : x.toModel.unpack
      = UnpackedFloat.unpack Format.binary64 (UnpackedFloat.pack Format.binary64 u)) :
    isFinite x = true ∧ Nearest r (toRat x) := by
  obtain ⟨z, hz, hnearest⟩ := h
  rw [unpack_pack hz (hnearest.abs_lt_of_abs_lt_limit hr)] at hx
  rw [← hx] at hz
  have hfinite := isFinite_of_stands hz
  exact ⟨hfinite, (stands_unpack hfinite).unique hz ▸ hnearest⟩

/-- **A difference of doubles is the double nearest to their difference**, in the range of
doubles. -/
theorem nearest_sub (hx : isFinite x = true) (hy : isFinite y = true)
    (hrange : |toRat x - toRat y| < limit) :
    isFinite (x - y) = true ∧ Nearest (toRat x - toRat y) (toRat (x - y)) :=
  nearest_of_rounds (rounds_sub (stands_unpack hx) (stands_unpack hy)) hrange rfl

/-- **A quotient of doubles is the double nearest to their quotient**, in the range of doubles. -/
theorem nearest_div (hx : isFinite x = true) (hy : isFinite y = true) (hzero : toRat y ≠ 0)
    (hrange : |toRat x / toRat y| < limit) :
    isFinite (x / y) = true ∧ Nearest (toRat x / toRat y) (toRat (x / y)) :=
  nearest_of_rounds (rounds_div (stands_unpack hx) (stands_unpack hy) hzero) hrange rfl

end SheetRecall.Decimal
