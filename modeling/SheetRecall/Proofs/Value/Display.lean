import SheetRecall.Proofs.Decimal.Notation
import SheetRecall.Proofs.Text.Lines
import SheetRecall.Proofs.Value.Scalars
import SheetRecall.Value.Display

/-!
# The Text of a Value Is One Line

A value that is no text is spelled out on one line, even if texts with several lines stand inside
it: those are quoted, and a line end is not printable, so it is escaped.

## Main statement
`oneLine_display`.
-/

namespace SheetRecall

open SheetRecall.Text SheetRecall.Decimal

/-! ## Numbers -/

/-- What a number is written with ends no line. -/
theorem oneLine_of_subset {cs : List Char} (h : cs ⊆ numeralChars) : OneLine cs :=
  apart_of_subset (by decide) h

theorem oneLine_natDigits (n : Nat) : OneLine (natDigits n) :=
  oneLine_of_subset (natDigits_subset n)

theorem oneLine_floatChars (x : Float) : OneLine (floatChars Value.floatSpellings x) := by
  by_cases hfinite : isFinite x = true
  · exact oneLine_of_subset (floatChars_subset hfinite Value.floatSpellings)
  · unfold isFinite at hfinite
    unfold floatChars
    generalize parts x = taken at hfinite ⊢
    cases taken with
    | nan => decide
    | infinite neg => cases neg <;> decide
    | finite neg m q => exact absurd rfl hfinite

/-! ## Quoted texts -/

/-- A character that ends a line is not printable. -/
theorem isLineEnd_of_isPrintable {c : Char} (h : isPrintable c = true) : isLineEnd c = false := by
  have hnone : ∀ range ∈ unprintableRanges, ¬ (range.1 ≤ c.toNat ∧ c.toNat ≤ range.2) := by
    simpa [isPrintable, CodeRanges.has] using h
  -- the line ends lie in three of the ranges of unprintable characters
  have hcontrols := hnone (0x0, 0x1f) (by decide +kernel)
  have hdelete := hnone (0x7f, 0xa0) (by decide +kernel)
  have hseparators := hnone (0x2028, 0x202f) (by decide +kernel)
  simp [isLineEnd, CodeRanges.has]
  omega

/-- The digits of a number in base sixteen end no line. -/
theorem oneLine_hexDigits (width n : Nat) : OneLine (hexDigits width n) := by
  have hdigits : OneLine (Nat.toDigits 16 n) := by
    have hdigit : ∀ d < 16, isLineEnd (Nat.digitChar d) = false := by decide
    induction n using Nat.strongRecOn with
    | ind n ih =>
      rcases Nat.lt_or_ge n 16 with hlt | hge
      · rw [Nat.toDigits_of_lt_base hlt]
        exact OneLine.cons (hdigit n hlt) (by decide)
      · rw [Nat.toDigits_of_base_le (by decide) hge]
        have hlast := hdigit (n % 16) (Nat.mod_lt n (by decide))
        exact (ih (n / 16) (by omega)).append (OneLine.cons hlast (by decide))
  exact (oneLine_of_subset (replicate_zero_subset _)).append hdigits

theorem oneLine_quoteChar {quote : Char} (hquote : isLineEnd quote = false) (c : Char) :
    OneLine (quoteChar quote c) := by
  -- every escape is a backslash and characters of the line
  have hescape : ∀ {letter : Char}, isLineEnd letter = false → ∀ {rest}, OneLine rest →
      OneLine ('\\' :: letter :: rest) := fun hletter _ hrest =>
    OneLine.cons (by decide) (hrest.cons hletter)
  have hnil : OneLine [] := by decide
  unfold quoteChar
  split
  case isTrue h =>
    refine hescape ?_ hnil
    rw [Bool.or_eq_true, decide_eq_true_eq, decide_eq_true_eq] at h
    rcases h with rfl | rfl
    · decide
    · exact hquote
  case isFalse =>
    split
    case isTrue => exact hescape (by decide) hnil
    case isFalse =>
    split
    case isTrue => exact hescape (by decide) hnil
    case isFalse =>
    split
    case isTrue => exact hescape (by decide) hnil
    case isFalse =>
    split
    case isTrue h => exact hnil.cons (isLineEnd_of_isPrintable h)
    case isFalse =>
    split
    case isTrue => exact hescape (by decide) (oneLine_hexDigits 2 _)
    case isFalse =>
    split
    case isTrue => exact hescape (by decide) (oneLine_hexDigits 4 _)
    case isFalse => exact hescape (by decide) (oneLine_hexDigits 8 _)

theorem oneLine_quoteChars (cs : List Char) : OneLine (quoteChars cs) := by
  unfold quoteChars
  dsimp only
  generalize hquote : (if cs.contains '\'' && !cs.contains '"' then '"' else '\'') = quote
  have hone : isLineEnd quote = false := by
    rw [← hquote]
    split <;> decide
  refine OneLine.append (OneLine.cons hone (OneLine.flatMap fun c _ => oneLine_quoteChar hone c)) ?_
  exact OneLine.cons hone (by decide)

/-! ## Values -/

namespace Value

theorem oneLine_spelledItems {items : List Value} (h : ∀ v ∈ items, OneLine (spelled v)) :
    OneLine (spelledItems items) := by
  induction items with
  | nil => decide
  | cons v vs ih =>
    obtain ⟨hv, hvs⟩ := List.forall_mem_cons.mp h
    cases vs with
    | nil => exact hv
    | cons w ws =>
      have hcomma : OneLine ", ".toList := by decide
      rw [spelledItems]
      · exact (hv.append hcomma).append (ih hvs)
      · simp

theorem oneLine_spelledFields {fields : List (String × Value)}
    (h : ∀ field ∈ fields, OneLine (spelled field.2)) : OneLine (spelledFields fields) := by
  have hcolon : OneLine ": ".toList := by decide
  have hcomma : OneLine ", ".toList := by decide
  -- the fields are joined in one line, as each of them is one
  induction fields with
  | nil => decide
  | cons field rest ih =>
    obtain ⟨key, v⟩ := field
    obtain ⟨hv, hrest⟩ := List.forall_mem_cons.mp h
    have hfield := ((oneLine_quoteChars key.toList).append hcolon).append hv
    cases rest with
    | nil => exact hfield
    | cons next more =>
      rw [spelledFields]
      · exact (hfield.append hcomma).append (ih hrest)
      · simp

theorem oneLine_spelled (v : Value) : OneLine (spelled v) := by
  induction v using memRec with
  | null => decide
  | bool b => cases b <;> decide
  | int n => exact oneLine_of_subset (intChars_subset n)
  | float x => exact oneLine_floatChars x
  | text s => exact oneLine_quoteChars s.toList
  | list items ih =>
    exact (OneLine.cons (by decide) (oneLine_spelledItems ih)).append (by decide)
  | map fields ih =>
    exact (OneLine.cons (by decide) (oneLine_spelledFields ih)).append (by decide)

/-- **The text of a value is one line**, if the value is no text of several lines. -/
theorem oneLine_display {v : Value} (h : ∀ s, v = .text s → OneLine s.toList) :
    OneLine v.display.toList := by
  cases v with
  | text s => exact h s rfl
  | _ =>
    rw [display, String.toList_ofList]
    · exact oneLine_spelled _
    · simp

end Value

end SheetRecall
