import SheetRecall.Proofs.Decimal.Digits

/-!
# What Numbers Are Written With

A written number has no blanks, no line ends and no letters but one: it consists of digits, signs,
a point and the letter of an exponent.  A finite double is told from an integer by its point or by
its exponent, since at least one of the two is always written.

## Main statements
- `intChars_subset`, `floatChars_subset`: the characters of an integer and of a finite double.
- `exists_mark_floatChars`: the point or the exponent of a finite double.
-/

namespace SheetRecall.Decimal

/-! ## Characters -/

/-- The characters that numbers are written with. -/
def numeralChars : List Char :=
  ['0', '1', '2', '3', '4', '5', '6', '7', '8', '9', '.', 'e', '+', '-']

/-- A class that holds none of these characters holds none of a number. -/
theorem apart_of_subset {inClass : Char → Bool} (h : numeralChars.any inClass = false)
    {cs : List Char} (hcs : cs ⊆ numeralChars) : ∀ c ∈ cs, inClass c = false := fun c hc =>
  Bool.eq_false_iff.mpr (List.any_eq_false.mp h c (hcs hc))

theorem mem_numeralChars {c : Char} (h : c.isDigit = true) : c ∈ numeralChars := by
  simp only [Char.isDigit, Bool.and_eq_true, decide_eq_true_eq] at h
  have hlow : 0x30 ≤ c.toNat := h.1
  have hhigh : c.toNat ≤ 0x39 := h.2
  -- the digits lie together, so ten of them are looked up
  have hdigits : ∀ d < 10, Char.ofNat (0x30 + d) ∈ numeralChars := by decide
  have hc := hdigits (c.toNat - 0x30) (by omega)
  rwa [Nat.add_sub_cancel' hlow, Char.ofNat_toNat] at hc

/-! ## Integers -/

theorem natDigits_subset (n : Nat) : natDigits n ⊆ numeralChars := fun _ hc =>
  mem_numeralChars (isDigit_of_mem_natDigits hc)

theorem intChars_subset (n : Int) : intChars n ⊆ numeralChars := by
  cases n with
  | ofNat n => exact natDigits_subset n
  | negSucc n => exact List.cons_subset.mpr ⟨by decide, natDigits_subset (n + 1)⟩

theorem intChars_ne_nil (n : Int) : intChars n ≠ [] := by
  cases n with
  | ofNat n => exact natDigits_ne_nil n
  | negSucc n => exact List.cons_ne_nil _ _

/-! ## Decimals -/

theorem exponentChars_subset (e : Int) : exponentChars e ⊆ numeralChars := by
  have hdigits := natDigits_subset e.natAbs
  refine List.cons_subset.mpr ⟨by decide, List.cons_subset.mpr ⟨?_, ?_⟩⟩
  · split <;> decide
  · split
    case isTrue => exact List.cons_subset.mpr ⟨by decide, hdigits⟩
    case isFalse => exact hdigits

theorem replicate_zero_subset (n : Nat) : List.replicate n '0' ⊆ numeralChars := by
  intro c hc
  rw [List.eq_of_mem_replicate hc]
  decide

/-- Digits that are laid out get zeros, a point and an exponent, wherever the point goes. -/
theorem layOut_subset {digits : List Char} (h : digits ⊆ numeralChars) (point : Int) :
    layOut digits point ⊆ numeralChars := by
  unfold layOut
  dsimp only
  -- the point stands far away, in front of the digits, behind them or among them
  split
  case isTrue =>
    have hexponent := exponentChars_subset (point - 1)
    split
    case h_1 => exact h
    case h_2 d => exact List.cons_subset.mpr ⟨h List.mem_cons_self, hexponent⟩
    case h_3 d more _ =>
      obtain ⟨hd, hmore⟩ := List.cons_subset.mp h
      refine List.cons_subset.mpr ⟨hd, List.append_subset.mpr ⟨?_, hexponent⟩⟩
      exact List.cons_subset.mpr ⟨by decide, hmore⟩
  case isFalse =>
    split
    case isTrue =>
      have hzeros := replicate_zero_subset (-point).toNat
      simp only [List.cons_append, List.cons_subset, List.append_subset]
      exact ⟨by decide, by decide, hzeros, h⟩
    case isFalse =>
      split
      case isTrue =>
        have hzeros := replicate_zero_subset (point.toNat - digits.length)
        simp only [List.append_subset]
        exact ⟨⟨h, hzeros⟩, by decide⟩
      case isFalse =>
        simp only [List.append_subset, List.cons_subset]
        exact ⟨fun c hc => h (List.mem_of_mem_take hc), by decide,
          fun c hc => h (List.mem_of_mem_drop hc)⟩

/-- Digits that are laid out have a point; a single digit with an exponent has only that. -/
theorem exists_mark_layOut {digits : List Char} (h : digits ≠ []) (point : Int) :
    ∃ c ∈ layOut digits point, c = '.' ∨ c = 'e' := by
  unfold layOut
  dsimp only
  split
  -- an exponent form has its `e` even when there is no fraction
  case isTrue =>
    split
    case h_1 => exact absurd rfl h
    case h_2 d => exact ⟨'e', by simp [exponentChars], .inr rfl⟩
    case h_3 d more _ => exact ⟨'.', by simp, .inl rfl⟩
  case isFalse =>
    -- every other form writes the point
    refine ⟨'.', ?_, .inl rfl⟩
    split
    case isTrue => simp
    case isFalse => split <;> simp

theorem Numeral.chars_subset (d : Numeral) : d.chars ⊆ numeralChars := by
  unfold Numeral.chars
  split
  case isTrue => decide
  case isFalse => exact layOut_subset (natDigits_subset _) _

theorem Numeral.exists_mark (d : Numeral) : ∃ c ∈ d.chars, c = '.' ∨ c = 'e' := by
  unfold Numeral.chars
  split
  case isTrue => exact ⟨'.', by decide, .inl rfl⟩
  case isFalse => exact exists_mark_layOut (natDigits_ne_nil _) _

/-! ## Doubles -/

section

variable {x : Float} (h : isFinite x = true) (spellings : Spellings)
include h

/-- A finite double is written as a decimal with a sign or none. -/
theorem exists_floatChars :
    ∃ (neg : Bool) (d : Numeral),
      floatChars spellings x = (if neg then ['-'] else []) ++ d.chars := by
  unfold isFinite at h
  split at h
  case h_1 neg m q hparts => exact ⟨neg, shortest m q, by rw [floatChars, hparts]⟩
  case h_2 => cases h

theorem floatChars_subset : floatChars spellings x ⊆ numeralChars := by
  obtain ⟨neg, d, hchars⟩ := exists_floatChars h spellings
  rw [hchars, List.append_subset]
  refine ⟨?_, d.chars_subset⟩
  cases neg <;> decide

theorem exists_mark_floatChars : ∃ c ∈ floatChars spellings x, c = '.' ∨ c = 'e' := by
  obtain ⟨neg, d, hchars⟩ := exists_floatChars h spellings
  obtain ⟨c, hc, hmark⟩ := d.exists_mark
  exact ⟨c, hchars ▸ List.mem_append_right _ hc, hmark⟩

end

end SheetRecall.Decimal
