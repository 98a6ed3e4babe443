import SheetRecall.Proofs.Decimal.Notation
import SheetRecall.Proofs.Text.Lines

/-!
# Integers Are Read Back

Of a text without low lines, the wide grammar reads as an integer exactly the digits of any script
with a sign or none in front, as long as there are no more of them than are read.

## Main statements
- `readInt_eq_ok_iff`: what is read as an integer.
- `readInt_intChars`, `length_le_of_readInt`: an integer is read back from its text, if it has no
  more digits than are read, and none that is read has more.
- `readInt_ne_ok`: what is written with a point or an exponent is no integer.
-/

namespace SheetRecall.Decimal

open SheetRecall.Text

/-! ## Signs -/

theorem takeSign_suffix (cs : List Char) : (takeSign cs).2 <:+ cs := by
  rw [takeSign.eq_def]
  split
  case h_1 rest => exact List.suffix_cons '-' rest
  case h_2 rest => exact List.suffix_cons '+' rest
  case h_3 => exact List.suffix_rfl

/-- No more than the sign is taken off. -/
theorem mem_takeSign {cs : List Char} {c : Char} (hc : c ∈ cs) (hminus : c ≠ '-')
    (hplus : c ≠ '+') : c ∈ (takeSign cs).2 := by
  rw [takeSign.eq_def]
  split
  case h_1 rest => exact (List.mem_cons.mp hc).resolve_left hminus
  case h_2 rest => exact (List.mem_cons.mp hc).resolve_left hplus
  case h_3 => exact hc

theorem takeSign_natDigits (n : Nat) : takeSign (natDigits n) = (false, natDigits n) := by
  obtain ⟨c, more, hdigits, hc⟩ := exists_digit_natDigits n
  have hother : ∀ {sign : Char}, sign.isDigit = false → ∀ rest, c :: more ≠ sign :: rest := by
    intro sign hsign rest heq
    rw [(List.cons.inj heq).1, hsign] at hc
    cases hc
  rw [hdigits, takeSign]
  · exact hother (by decide)
  · exact hother (by decide)

/-! ## Sizes -/

theorem digitValue?_lt {c : Char} {d : Nat} (h : digitValue? c = some d) : d < 10 := by
  obtain ⟨start, hfind, rfl⟩ := Option.map_eq_some_iff.mp h
  have hrange := List.find?_some hfind
  simp only [Bool.and_eq_true, decide_eq_true_eq] at hrange
  omega

/-! ## Texts without low lines -/

/-- **What is read as an integer**, if no low line stands in the text. -/
theorem readInt_eq_ok_iff {cs : List Char} (hfree : '_' ∉ cs) {n : Int} :
    readInt cs = .ok n ↔
      ∃ neg digits, takeSign (trimBy isNumberMargin cs) = (neg, digits) ∧ digits ≠ []
        ∧ (∀ c ∈ digits, isDigit c = true) ∧ digits.length ≤ maxIntegerDigits
        ∧ n = signed neg (ofDigits (digits.filterMap digitValue?)) := by
  have hsuffix := takeSign_suffix (trimBy isNumberMargin cs)
  rw [readInt]
  generalize takeSign (trimBy isNumberMargin cs) = taken at hsuffix ⊢
  obtain ⟨neg, rest⟩ := taken
  -- without a low line the reader has no separators to skip, so its digits are a longest run
  have hrest : '_' ∉ rest := fun hmem => hfree ((infix_trimBy cs).subset (hsuffix.subset hmem))
  dsimp only
  rw [takeDigits_of_notMem digitValue? true hrest, takeDigits_eq_span]
  dsimp only
  by_cases hall : ∀ c ∈ rest, (digitValue? c).isSome = true
  · -- nothing is left over, and each character has a value
    have hlength : (rest.filterMap digitValue?).length = rest.length :=
      List.filterMap_length_eq_length.mpr hall
    have hempty : (rest.filterMap digitValue?).isEmpty = rest.isEmpty := by
      rw [Bool.eq_iff_iff, List.isEmpty_iff_length_eq_zero, List.isEmpty_iff_length_eq_zero,
        hlength]
    rw [List.takeWhile_eq_self_iff.mpr hall, List.dropWhile_eq_nil_iff.mpr hall, hlength, hempty]
    constructor
    · -- the reader refuses an empty run and one that is too long
      intro h
      split at h
      case isTrue => cases h
      case isFalse hne =>
        split at h
        case isTrue => cases h
        case isFalse hshort =>
          refine ⟨neg, rest, rfl, ?_, hall, Nat.le_of_not_lt hshort, (Except.ok.inj h).symm⟩
          rintro rfl
          exact hne rfl
    · rintro ⟨_, _, htaken, hne, -, hshort, rfl⟩
      obtain ⟨rfl, rfl⟩ := Prod.mk.inj htaken
      rw [if_neg (by simpa using hne), if_neg (Nat.not_lt.mpr hshort)]
      rfl
  · -- a character that is no digit stays behind, and the reader takes no rest
    have hleft : (rest.dropWhile fun c => (digitValue? c).isSome).isEmpty = false := by
      rw [Bool.eq_false_iff, ne_eq, List.isEmpty_iff]
      exact mt List.dropWhile_eq_nil_iff.mp hall
    rw [hleft]
    constructor
    · intro h
      split at h
      case isTrue => cases h
      case isFalse => split at h <;> cases h
    · rintro ⟨_, _, htaken, -, hdigits, -⟩
      obtain ⟨rfl, rfl⟩ := Prod.mk.inj htaken
      exact absurd hdigits hall

/-- An integer that is read has no more digits than are read. -/
theorem length_le_of_readInt {cs : List Char} (hfree : '_' ∉ cs) {n : Int}
    (h : readInt cs = .ok n) : (natDigits n.natAbs).length ≤ maxIntegerDigits := by
  obtain ⟨neg, digits, -, -, -, hshort, rfl⟩ := (readInt_eq_ok_iff hfree).mp h
  have hvalues : ∀ d ∈ digits.filterMap digitValue?, d < 10 := fun d hd => by
    obtain ⟨c, -, hc⟩ := List.mem_filterMap.mp hd
    exact digitValue?_lt hc
  have habs : (signed neg (ofDigits (digits.filterMap digitValue?))).natAbs
      = ofDigits (digits.filterMap digitValue?) := by
    cases neg with
    | false => rfl
    | true => exact Int.natAbs_neg _
  rw [habs]
  exact length_natDigits_le hvalues ((List.length_filterMap_le _ _).trans hshort)

/-! ## Written numbers -/

theorem notMem_of_subset {cs : List Char} (h : cs ⊆ numeralChars) : '_' ∉ cs := fun hmem =>
  absurd (h hmem) (by decide)

theorem trimBy_margin_of_subset {cs : List Char} (h : cs ⊆ numeralChars) :
    trimBy isNumberMargin cs = cs :=
  trimBy_eq_self_of_forall (apart_of_subset (by decide) h)

/-- **An integer is read back**, unless it has more digits than are read. -/
theorem readInt_intChars {n : Int} (h : (natDigits n.natAbs).length ≤ maxIntegerDigits) :
    readInt (intChars n) = .ok n := by
  have hchars := intChars_subset n
  -- the digits of a number give the number back
  have hvalue : ∀ m, ofDigits ((natDigits m).filterMap digitValue?) = m := fun m => by
    rw [filterMap_natDigits digitValue?_of_isDigit, ofDigits_natDigits]
  rw [readInt_eq_ok_iff (notMem_of_subset hchars), trimBy_margin_of_subset hchars]
  cases n with
  | ofNat n =>
    refine ⟨false, natDigits n, takeSign_natDigits n, natDigits_ne_nil n,
      fun _ => isDigit_natDigits, h, ?_⟩
    rw [hvalue]
    rfl
  | negSucc n =>
    refine ⟨true, natDigits (n + 1), rfl, natDigits_ne_nil _, fun _ => isDigit_natDigits, h, ?_⟩
    rw [hvalue]
    rfl

/-- What is written with a point or an exponent is read as no integer. -/
theorem readInt_ne_ok {cs : List Char} (h : cs ⊆ numeralChars) {c : Char} (hc : c ∈ cs)
    (hmark : c = '.' ∨ c = 'e') (n : Int) : readInt cs ≠ .ok n := by
  intro hread
  obtain ⟨neg, digits, hsign, -, hall, -⟩ := (readInt_eq_ok_iff (notMem_of_subset h)).mp hread
  rw [trimBy_margin_of_subset h] at hsign
  -- the mark is no sign, so it is left among the digits
  have hmem : c ∈ (takeSign cs).2 := by
    rcases hmark with rfl | rfl <;> exact mem_takeSign hc (by decide) (by decide)
  rw [hsign] at hmem
  rcases hmark with rfl | rfl <;> exact absurd (hall _ hmem) (by decide)

end SheetRecall.Decimal
