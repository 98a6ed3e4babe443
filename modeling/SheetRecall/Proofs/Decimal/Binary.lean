import SheetRecall.Decimal.Binary

/-!
# The Parts of Doubles

A double has the parts into which the library unpacks it.  Some have no digits: the one that is no
number, and the two infinities.

## Main statements
- `unpack_eq`: a double is unpacked into its parts.
- `parts_eq_nan_iff`: the parts tell the double that is no number from all others.
- `eq_infinity_of_parts`: a double with the parts of an infinity is that infinity.
-/

namespace SheetRecall.Decimal

open Float.Model (UnpackedFloat Format)
open Float.Model.UnpackedFloat (Sign)

/-! ## Unpacking -/

section Fields

variable (x : Float)

/-- Helper: the exponent of a double as a number in its bits. -/
private theorem toNat_unpackExponent :
    (@UnpackedFloat.unpackExponent Format.binary64 x.toBits.toBitVec).toNat
      = x.toBits.toNat / powTwo 52 % powTwo 11 := by
  have hshift := Nat.shiftRight_eq_div_pow x.toBits.toNat 52
  exact congrArg (· % 2 ^ 11) hshift

private theorem toNat_unpackMantissa :
    (@UnpackedFloat.unpackMantissa Format.binary64 x.toBits.toBitVec).toNat
      = x.toBits.toNat % powTwo 52 := rfl

private theorem toNat_unpackSign :
    (@UnpackedFloat.unpackSign Format.binary64 x.toBits.toBitVec).toNat
      = x.toBits.toNat / powTwo 63 := by
  have hshift := Nat.shiftRight_eq_div_pow x.toBits.toNat 63
  have hbit : x.toBits.toNat / powTwo 63 < 2 :=
    Nat.div_lt_of_lt_mul x.toBits.toBitVec.isLt
  exact (congrArg (· % 2) hshift).trans (Nat.mod_eq_of_lt hbit)

/-- Helper: the mantissa with its implicit digit. -/
private theorem toNat_append_unpackMantissa :
    (1#1 ++ @UnpackedFloat.unpackMantissa Format.binary64 x.toBits.toBitVec).toNat
      = powTwo 52 + x.toBits.toNat % powTwo 52 := by
  rw [BitVec.toNat_append, ← Nat.shiftLeft_add_eq_or_of_lt (BitVec.isLt _), toNat_unpackMantissa]
  rfl

end Fields

/-- The sign that a double is unpacked with. -/
def signOf (neg : Bool) : Sign := if neg then .negative else .positive

private theorem ofBitVec_unpackSign (x : Float) :
    Sign.ofBitVec (@UnpackedFloat.unpackSign Format.binary64 x.toBits.toBitVec)
      = signOf (x.toBits.toNat / powTwo 63 == 1) := by
  rw [← toNat_unpackSign]
  generalize @UnpackedFloat.unpackSign Format.binary64 x.toBits.toBitVec = bit
  rcases BitVec.eq_zero_or_eq_one bit with rfl | rfl <;> rfl

theorem finite_congr (s : Sign) {m n : Nat} {e f : Int} {hm : 0 < m} {hn : 0 < n}
    (hmn : m = n) (hef : e = f) : UnpackedFloat.finite s m e hm = .finite s n f hn := by
  subst hmn hef
  rfl

/-- **A double is unpacked into its parts.** -/
theorem unpack_eq (x : Float) :
    x.toModel.unpack = match parts x with
      | .nan => .notANumber
      | .infinite neg => .infinity (signOf neg)
      | .finite neg m q =>
        if h : m = 0 then .zero (signOf neg)
        else .finite (signOf neg) m q (Nat.pos_of_ne_zero h) := by
  have hunpack : x.toModel.unpack = UnpackedFloat.unpack Format.binary64 x.toBits.toBitVec := rfl
  -- the three questions about the bit fields, each put as a question about the whole number
  have hones : @UnpackedFloat.unpackExponent Format.binary64 x.toBits.toBitVec = -1#_
      ↔ x.toBits.toNat / powTwo 52 % powTwo 11 = 2047 := by
    rw [← BitVec.toNat_inj, toNat_unpackExponent]
    rfl
  have hzeros : @UnpackedFloat.unpackExponent Format.binary64 x.toBits.toBitVec = 0#_
      ↔ x.toBits.toNat / powTwo 52 % powTwo 11 = 0 := by
    rw [← BitVec.toNat_inj, toNat_unpackExponent]
    rfl
  have hfraction : @UnpackedFloat.unpackMantissa Format.binary64 x.toBits.toBitVec = 0#_
      ↔ x.toBits.toNat % powTwo 52 = 0 := by
    rw [← BitVec.toNat_inj, toNat_unpackMantissa]
    rfl
  rw [hunpack, parts]
  delta UnpackedFloat.unpack
  dsimp only
  rw [ofBitVec_unpackSign]
  -- both sides ask the same about exponent and fraction
  by_cases hexponent : x.toBits.toNat / powTwo 52 % powTwo 11 = 2047
  · -- all exponent bits set: an infinity, or no number at all
    rw [if_pos (hones.mpr hexponent), if_pos hexponent]
    by_cases hzero : x.toBits.toNat % powTwo 52 = 0
    · rw [if_pos (hfraction.mpr hzero), if_pos hzero]
    · rw [if_neg (mt hfraction.mp hzero), if_neg hzero]
  · rw [if_neg (mt hones.mp hexponent), if_neg hexponent]
    -- no exponent bit set: zero or a subnormal, else the leading bit is implied
    by_cases hsubnormal : x.toBits.toNat / powTwo 52 % powTwo 11 = 0
    · rw [if_pos (hzeros.mpr hsubnormal), if_pos hsubnormal, hzeros.mpr hsubnormal]
      dsimp only
      by_cases hzero : x.toBits.toNat % powTwo 52 = 0
      · rw [dif_pos (hfraction.mpr hzero), dif_pos hzero]
      · rw [dif_neg (mt hfraction.mp hzero), dif_neg hzero]
        rfl
    · rw [if_neg (mt hzeros.mp hsubnormal), if_neg hsubnormal]
      have hpos : powTwo 52 + x.toBits.toNat % powTwo 52 ≠ 0 := by
        have : 0 < powTwo 52 := by decide
        omega
      dsimp only
      rw [dif_neg hpos]
      exact finite_congr _ (toNat_append_unpackMantissa x) (by rw [toNat_unpackExponent]; rfl)

/-- The double that is no number has no other parts, and no other double has none. -/
theorem parts_eq_nan_iff {x : Float} : parts x = .nan ↔ x.isNaN = true := by
  have hunpack : x.isNaN = x.toModel.unpack.isNaN := rfl
  rw [hunpack, unpack_eq]
  cases parts x with
  | nan => exact iff_of_true rfl rfl
  | infinite neg => exact iff_of_false nofun Bool.false_ne_true
  | finite neg m q =>
    -- a mantissa of zero unpacks to a zero, and neither form is "no number"
    refine iff_of_false nofun ?_
    dsimp only
    by_cases hzero : m = 0
    · rw [dif_pos hzero]
      exact Bool.false_ne_true
    · rw [dif_neg hzero]
      exact Bool.false_ne_true

/-- A double that is a number has the parts of one. -/
theorem parts_ne_nan {x : Float} (h : x.isNaN = false) : parts x ≠ .nan := by
  intro hparts
  rw [parts_eq_nan_iff.mp hparts] at h
  cases h

private theorem eq_of_toBits_eq {x y : Float} (h : x.toBits = y.toBits) : x = y := by
  obtain ⟨⟨bits, hvalid⟩⟩ := x
  obtain ⟨⟨others, hothers⟩⟩ := y
  obtain rfl : bits = others := h
  rfl

/-- A double with the parts of an infinity is that infinity. -/
theorem eq_infinity_of_parts {x : Float} {neg : Bool} (h : parts x = .infinite neg) :
    x = infinity neg := by
  simp only [parts] at h
  split at h
  case isTrue hexponent =>
    split at h
    case isTrue hfraction =>
      have hneg : (x.toBits.toNat / powTwo 63 == 1) = neg := Parts.infinite.inj h
      have hbound : x.toBits.toNat < 2 ^ 64 := x.toBits.toBitVec.isLt
      have hpowers : powTwo 63 = 2 ^ 63 ∧ powTwo 52 = 2 ^ 52 ∧ powTwo 11 = 2 ^ 11 := ⟨rfl, rfl, rfl⟩
      -- `omega` needs the powers as numerals
      rw [hpowers.1] at hneg
      rw [hpowers.2.1] at hfraction hexponent
      rw [hpowers.2.2] at hexponent
      apply eq_of_toBits_eq
      apply UInt64.toNat_inj.mp
      -- sign, exponent and fraction leave no other bits
      cases neg with
      | true =>
        have hbits : (infinity true).toBits.toNat = 0xfff0000000000000 := by decide
        rw [beq_iff_eq] at hneg
        rw [hbits]
        omega
      | false =>
        have hbits : (infinity false).toBits.toNat = 0x7ff0000000000000 := by decide
        rw [beq_eq_false_iff_ne] at hneg
        rw [hbits]
        omega
    case isFalse => exact absurd h (by simp)
  case isFalse =>
    split at h
    all_goals exact absurd h (by simp)

end SheetRecall.Decimal
