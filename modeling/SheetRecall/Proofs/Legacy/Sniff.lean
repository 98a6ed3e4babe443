import Mathlib.Logic.Function.Iterate
import SheetRecall.Legacy.Sniff
import SheetRecall.Proofs.Decimal.Reading
import SheetRecall.Proofs.Text.Case
import SheetRecall.Value.Display

/-!
# The Value of a Cell's Text Is Final

A value is taken for a cell's text, written out and taken again: after the first time nothing
changes any more.  Each way out of the cascade is found again from the text that is written, since
a number is written with characters that no marker and no boolean is spelled with, an integer
without the point and the exponent that a double has, and a text as it is.

## The way out
`Sniffed` names the five ways out, with what is known on each.

## What is asked of doubles
That its digits are read as the double (`FloatReadsBack`).  No such thing is asked of integers:
those that come out of the cascade have no more digits than are read.

## Main statement
`sniff_settles`.
-/

namespace SheetRecall.Legacy

open SheetRecall.Text SheetRecall.Decimal

/-- The value of a cell's text is that of the trimmed text. -/
theorem sniff_congr {text other : String} (h : trim text = trim other) :
    sniff text = sniff other := by
  rw [sniff, sniff, h]

/-! ## Texts of numbers -/

/-- What a number is written with is lower-case. -/
theorem isLower_of_subset {cs : List Char} (h : cs ⊆ numeralChars) : ∀ c ∈ cs, IsLower c := by
  have hlower : (numeralChars.all fun c => decide (IsLower c)) = true := by decide +kernel
  exact fun c hc => of_decide_eq_true (List.all_eq_true.mp hlower c (h hc))

/-- A text with the characters of a number is trimmed, it holds no low line, and it is no word for
another value: those have letters that no number has. -/
theorem unmarked_of_subset {cs : List Char} (hne : cs ≠ []) (h : cs ⊆ numeralChars) :
    trim (String.ofList cs) = String.ofList cs
      ∧ nullMarkers.contains (lower (String.ofList cs)) = false
      ∧ lower (String.ofList cs) ≠ "true" ∧ lower (String.ofList cs) ≠ "false"
      ∧ cs.contains '_' = false := by
  have htrim : trim (String.ofList cs) = String.ofList cs := by
    rw [trim, String.toList_ofList, trimChars,
      trimBy_eq_self_of_forall (apart_of_subset (by decide) h)]
  have hlower : lower (String.ofList cs) = String.ofList cs := by
    rw [lower, String.toList_ofList, lowerChars_eq_self (isLower_of_subset h)]
  -- each marker is empty or has a letter that no numeral has
  have hletter : ∀ word ∈ "true" :: "false" :: nullMarkers,
      word.toList = [] ∨ ¬ word.toList ⊆ numeralChars := by decide
  have hother : ∀ word ∈ "true" :: "false" :: nullMarkers, String.ofList cs ≠ word := by
    rintro word hmem rfl
    have hcases := hletter _ hmem
    rw [String.toList_ofList] at hcases
    rcases hcases with hnil | hsubset
    · exact hne hnil
    · exact hsubset h
  refine ⟨htrim, ?_, ?_, ?_, ?_⟩
  · rw [hlower, Bool.eq_false_iff, ne_eq, List.contains_iff_mem]
    exact fun hmem => hother _ (by simp [hmem]) rfl
  · rw [hlower]
    exact hother "true" (by simp)
  · rw [hlower]
    exact hother "false" (by simp)
  · rw [Bool.eq_false_iff, ne_eq, List.contains_iff_mem]
    exact notMem_of_subset h

theorem sniff_ofList_int {cs : List Char} (hne : cs ≠ []) (h : cs ⊆ numeralChars) {n : Int}
    (hread : readInt cs = .ok n) : sniff (String.ofList cs) = .int n := by
  obtain ⟨htrim, hnull, htrue, hfalse, hline⟩ := unmarked_of_subset hne h
  simp only [sniff, htrim, hnull, htrue, hfalse, String.toList_ofList, hline, Bool.false_eq_true,
    if_false, hread]

theorem sniff_ofList_float {cs : List Char} (hne : cs ≠ []) (h : cs ⊆ numeralChars)
    (hother : ∀ n, readInt cs ≠ .ok n) {x : Float} (hread : readFloat? cs = some x)
    (hfinite : isFinite x = true) : sniff (String.ofList cs) = .float x := by
  obtain ⟨htrim, hnull, htrue, hfalse, hline⟩ := unmarked_of_subset hne h
  cases hint : readInt cs with
  | ok n => exact absurd hint (hother n)
  | error fault =>
    simp only [sniff, htrim, hnull, htrue, hfalse, String.toList_ofList, hline,
      Bool.false_eq_true, if_false, hint, hread, hfinite, if_true]

/-! ## Values that are read back -/

/-- An integer is read back, unless it has more digits than are read. -/
theorem sniff_display_int {n : Int} (h : (natDigits n.natAbs).length ≤ maxIntegerDigits) :
    sniff (Value.int n).display = .int n := by
  have hdisplay : (Value.int n).display = String.ofList (intChars n) := rfl
  rw [hdisplay]
  exact sniff_ofList_int (intChars_ne_nil n) (intChars_subset n) (readInt_intChars h)

/-- The digits of a double are read as that double. -/
def FloatReadsBack (x : Float) : Prop := readFloat? (floatChars Value.floatSpellings x) = some x

/-- A finite double is read back, if its digits are. -/
theorem sniff_display_float {x : Float} (hfinite : isFinite x = true) (h : FloatReadsBack x) :
    sniff (Value.float x).display = .float x := by
  have hdisplay : (Value.float x).display = String.ofList (floatChars Value.floatSpellings x) := rfl
  have hchars := floatChars_subset hfinite Value.floatSpellings
  obtain ⟨c, hc, hmark⟩ := exists_mark_floatChars hfinite Value.floatSpellings
  rw [hdisplay]
  -- with a point or an exponent in it, the text is that of no integer
  exact sniff_ofList_float (List.ne_nil_of_mem hc) hchars (readInt_ne_ok hchars hc hmark) h hfinite

/-- A scalar other than a text; if it is a number, one with digits that are read back. -/
def ReadsBack : Value → Prop
  | .null | .bool _ => True
  | .int n => (natDigits n.natAbs).length ≤ maxIntegerDigits
  | .float x => isFinite x = true ∧ FloatReadsBack x
  | .text _ | .list _ | .map _ => False

theorem sniff_display {v : Value} (h : ReadsBack v) : sniff v.display = v := by
  cases v with
  | null => rfl
  | bool b => cases b <;> rfl
  | int n => exact sniff_display_int h
  | float x => exact sniff_display_float h.1 h.2
  | text s => exact absurd h id
  | list items => exact absurd h id
  | map fields => exact absurd h id

/-! ## The way out of the cascade -/

/-- How a value comes out of a cell's text. -/
inductive Sniffed (text : String) : Value → Prop
  | null : Sniffed text .null
  | bool (b : Bool) : Sniffed text (.bool b)
  | int {n : Int} (hfree : '_' ∉ (trim text).toList)
      (hread : readInt (trim text).toList = .ok n) : Sniffed text (.int n)
  | float {x : Float} (hfinite : isFinite x = true) : Sniffed text (.float x)
  | text : Sniffed text (.text (trim text))

theorem sniffed_sniff (text : String) : Sniffed text (sniff text) := by
  -- one way out after the other, in the order of the cascade
  rw [sniff]
  split
  case isTrue => exact .null
  case isFalse =>
  split
  case isTrue => exact .bool true
  case isFalse =>
  split
  case isTrue => exact .bool false
  case isFalse =>
  split
  case isTrue => exact .text
  case isFalse hline =>
    have hfree : '_' ∉ (trim text).toList := fun hmem => hline (List.contains_iff_mem.mpr hmem)
    split
    case h_1 n hread => exact .int hfree hread
    case h_2 =>
      split
      case h_2 => exact .text
      case h_1 x _ =>
        split
        case isTrue hfinite => exact .float hfinite
        case isFalse => exact .text

/-- What comes out of a text comes out of its own text again. -/
theorem sniff_display_sniff {text : String}
    (h : ∀ x, sniff text = .float x → FloatReadsBack x) :
    sniff (sniff text).display = sniff text := by
  have hsniffed := sniffed_sniff text
  generalize hv : sniff text = v at hsniffed h ⊢
  cases hsniffed with
  | null => rfl
  | bool b => cases b <;> rfl
  | int hfree hread =>
    -- it was read, so it has no more digits than are read
    exact sniff_display_int (length_le_of_readInt hfree hread)
  | float hfinite => exact sniff_display_float hfinite (h _ rfl)
  | text =>
    -- the text is trimmed already, so it takes the same way out
    have htrim : trim (trim text) = trim text := by
      rw [trim, trim, String.toList_ofList, trimChars, trimChars, trimBy_trimBy]
    exact (sniff_congr htrim).trans hv

/-! ## Main statement -/

/-- **Every scalar but a text is read back from its text, and every text settles at once.**  Of an
integer it is asked that it has no more digits than are read, and of a double that it is finite and
that its digits are read as that double.  A text that stands for nothing else stands for itself,
trimmed. -/
theorem sniff_settles :
    (∀ v : Value, ReadsBack v → sniff v.display = v)
      ∧ (∀ text, (∀ x, sniff text = .float x → FloatReadsBack x) →
        sniff (sniff text).display = sniff text
          ∧ ∀ rounds, (fun v => sniff v.display)^[rounds] (sniff text) = sniff text)
      ∧ ∀ text s, sniff text = .text s → s = trim text := by
  refine ⟨fun v => sniff_display, fun text h => ?_, fun text s hs => ?_⟩
  · have hfixed := sniff_display_sniff h
    exact ⟨hfixed, Function.iterate_fixed hfixed⟩
  · have hsniffed := sniffed_sniff text
    rw [hs] at hsniffed
    cases hsniffed
    rfl

/-- A double with an exponent in its text, and one that is written in another way at first. -/
theorem sniff_settles_decimals :
    ReadsBack (.float 1e16) ∧ sniff (Value.float 1e16).display = .float 1e16
      ∧ sniff " +.50\n" = .float 0.5 ∧ sniff (sniff " +.50\n").display = .float 0.5 := by
  have hlarge : ReadsBack (.float 1e16) := by
    unfold ReadsBack FloatReadsBack
    decide +kernel
  -- the text is trimmed, is no integer because of its point, and reads as a half
  have hhalf : sniff " +.50\n" = .float 0.5 := by
    have htrim : trim " +.50\n" = trim (String.ofList ['+', '.', '5', '0']) := by decide
    have hfloat : readFloat? ['+', '.', '5', '0'] = some 0.5 := by decide +kernel
    have hchars : ['+', '.', '5', '0'] ⊆ numeralChars := by decide
    have hmark : '.' ∈ ['+', '.', '5', '0'] := by decide
    rw [sniff_congr htrim]
    exact sniff_ofList_float (List.ne_nil_of_mem hmark) hchars
      (readInt_ne_ok hchars hmark (.inl rfl)) hfloat (by decide +kernel)
  -- the double it is read to is the half, which reads back
  have hback : ∀ x, sniff " +.50\n" = .float x → FloatReadsBack x := by
    rintro x hx
    obtain rfl : 0.5 = x := Value.float.inj (hhalf.symm.trans hx)
    unfold FloatReadsBack
    decide +kernel
  exact ⟨hlarge, sniff_settles.1 _ hlarge, hhalf, (sniff_settles.2.1 _ hback).1.trans hhalf⟩

end SheetRecall.Legacy
