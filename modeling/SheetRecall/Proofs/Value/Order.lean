import SheetRecall.Proofs.Decimal.Binary
import SheetRecall.Value.Number

/-!
# The Order of Numbers

Numbers of either kind compare unless one of them is the double that is no number, and compare the
other way round with the reversed result.  So "at most" and "not above" differ only there.

## Main statements
- `compare_swap`: a comparison read backwards.
- `compare_eq_none_iff`: what does not compare.
- `le_iff_not_lt`: a number is at most another unless it is above it, or one of them is none.
-/

namespace SheetRecall.Number

open Float.Model (UnpackedFloat)

/-! ## Unpacked doubles -/

/-- Helper: a comparison of unpacked doubles read backwards. -/
theorem unpacked_compare_swap (a b : UnpackedFloat) :
    b.compare a = (a.compare b).map Ordering.swap := by
  have hfinite : ∀ (e₁ e₂ : Int) (m₁ m₂ : Nat),
      (Ord.compare e₂ e₁).then (Ord.compare m₂ m₁)
        = ((Ord.compare e₁ e₂).then (Ord.compare m₁ m₂)).swap := by
    intro e₁ e₂ m₁ m₂
    rw [Ordering.swap_then, Std.OrientedOrd.eq_swap (a := e₂), Std.OrientedOrd.eq_swap (a := m₂)]
  -- only two finite doubles of one sign compare by exponent and mantissa
  rcases a with (_ | _) | _ | _ | ⟨_ | _, m₁, e₁, h₁⟩ <;>
    rcases b with (_ | _) | _ | _ | ⟨_ | _, m₂, e₂, h₂⟩ <;>
    try rfl
  case finite.positive.finite.positive => exact congrArg some (hfinite e₁ e₂ m₁ m₂)
  case finite.negative.finite.negative =>
    exact congrArg (fun order => some order.swap) (hfinite e₁ e₂ m₁ m₂)

/-- Helper: unpacked doubles compare unless one of them is no number. -/
theorem unpacked_compare_eq_none_iff (a b : UnpackedFloat) :
    a.compare b = none ↔ a.isNaN = true ∨ b.isNaN = true := by
  have hnone : (a.compare b).isNone = (a.isNaN || b.isNaN) := by
    rcases a with (_ | _) | _ | _ | ⟨_ | _, m₁, e₁, h₁⟩ <;>
      rcases b with (_ | _) | _ | _ | ⟨_ | _, m₂, e₂, h₂⟩ <;>
      rfl
  rw [← Option.isNone_iff_eq_none, hnone, Bool.or_eq_true]

/-! ## Doubles -/

/-- Doubles compare as what they unpack to. -/
theorem compareFloats_eq (x y : Float) :
    compareFloats x y = x.toModel.unpack.compare y.toModel.unpack := by
  -- the operators on doubles ask the comparison of what they unpack to
  have hlt : ∀ a b : Float, a < b ↔ a.toModel.unpack.compare b.toModel.unpack = some .lt := by
    intro a b
    constructor
    · intro h
      exact beq_iff_eq.mp (of_decide_eq_true h)
    · intro h
      exact decide_eq_true (beq_iff_eq.mpr h)
  have heq : (x == y) = true ↔ x.toModel.unpack.compare y.toModel.unpack = some .eq :=
    beq_iff_eq (a := x.toModel.unpack.compare y.toModel.unpack)
  -- the third test has the doubles the other way round
  have hgt : y < x ↔ x.toModel.unpack.compare y.toModel.unpack = some .gt := by
    rw [hlt, unpacked_compare_swap x.toModel.unpack]
    rcases x.toModel.unpack.compare y.toModel.unpack with _ | _ | _ | _ <;> simp
  simp only [compareFloats, hlt x y, heq, hgt]
  rcases x.toModel.unpack.compare y.toModel.unpack with _ | _ | _ | _ <;> rfl

/-! ## Numbers of either kind -/

theorem compareInt_eq_none_iff (n : Int) (x : Float) :
    Decimal.compareInt n x = none ↔ x.isNaN = true := by
  rw [← Decimal.parts_eq_nan_iff, Decimal.compareInt]
  cases Decimal.parts x with
  | nan => simp
  | infinite neg => simp
  | finite neg m q =>
    dsimp only
    split <;> simp

/-- **A comparison read backwards** has the reversed result. -/
theorem compare_swap (a b : Number) : b.compare a = (a.compare b).map Ordering.swap := by
  cases a with
  | int m =>
    cases b with
    | int n => exact congrArg some (Std.OrientedOrd.eq_swap)
    | float y => rfl
  | float x =>
    cases b with
    | int n =>
      -- an integer against a double is the same test as a double against an integer, turned around
      rw [compare, compare, Option.map_map]
      cases Decimal.compareInt n x <;> simp
    | float y =>
      rw [compare, compare, compareFloats_eq, compareFloats_eq]
      exact unpacked_compare_swap _ _

/-- **Numbers compare** unless one of them is the double that is no number. -/
theorem compare_eq_none_iff (a b : Number) :
    a.compare b = none ↔ a.isNone = true ∨ b.isNone = true := by
  cases a with
  | int m =>
    cases b with
    | int n => simp [compare, isNone]
    | float y => simp [compare, isNone, compareInt_eq_none_iff]
  | float x =>
    cases b with
    | int n => simp [compare, isNone, compareInt_eq_none_iff]
    | float y =>
      rw [compare, compareFloats_eq]
      exact unpacked_compare_eq_none_iff _ _

/-- A number is at most another unless it is above it, or one of them is none. -/
theorem le_iff_not_lt (a b : Number) :
    a.le b = true ↔ b.lt a = false ∧ a.isNone = false ∧ b.isNone = false := by
  have hnone : (a.isNone = false ∧ b.isNone = false) ↔ a.compare b ≠ none := by
    rw [ne_eq, compare_eq_none_iff]
    simp
  rw [hnone, le, lt, same, lt, compare_swap a b]
  rcases a.compare b with _ | _ | _ | _ <;> simp

end SheetRecall.Number
