import Mathlib.Data.List.Basic
import Mathlib.Data.List.Induction
import Mathlib.Data.List.TakeWhile
import Mathlib.Data.Nat.Digits.Defs
import SheetRecall.Decimal.Notation
import SheetRecall.Decimal.Reading

/-!
# Digits Are Read Back

The reader of digits takes the longest run of digits in front.  So it takes the decimal digits of
a natural number as they were written, up to the first character that is no digit, and gets the
number back.

## Main statements
- `takePlain_natDigits`: the digits of a number are read back.
- `takeDigits_of_notMem`: a separator that may stand between digits changes nothing unless it does.
- `length_natDigits_le`: a number has no more digits than it is made of, if that is few enough.
-/

namespace SheetRecall.Decimal

open SheetRecall.Text

/-! ## Digits of a number -/

theorem natDigits_ne_nil (n : Nat) : natDigits n ≠ [] := Nat.toDigits_ne_nil

theorem isDigit_of_mem_natDigits {n : Nat} {c : Char} (h : c ∈ natDigits n) : c.isDigit = true :=
  Nat.isDigit_of_mem_toDigits (by decide) (by decide) h

theorem exists_digit_natDigits (n : Nat) :
    ∃ c more, natDigits n = c :: more ∧ c.isDigit = true := by
  obtain ⟨c, more, hdigits⟩ := List.exists_cons_of_ne_nil (natDigits_ne_nil n)
  exact ⟨c, more, hdigits, isDigit_of_mem_natDigits (hdigits ▸ List.mem_cons_self)⟩

/-- Numbers are told apart by their digits. -/
theorem natDigits_inj {m n : Nat} : natDigits m = natDigits n ↔ m = n := by
  constructor
  · intro h
    have hnumber := congrArg (Nat.ofDigitChars 10 · 0) h
    simpa only [natDigits, Nat.ofDigitChars_ten_toDigits] using hnumber
  · rintro rfl
    rfl

theorem toString_eq_ofList (n : Nat) : toString n = String.ofList (natDigits n) :=
  Nat.toString_eq_ofList_toDigits

theorem toString_natCast (n : Nat) : toString (n : Int) = String.ofList (natDigits n) :=
  toString_eq_ofList n

/-! ## Runs of digits -/

theorem takeMoreDigits_eq_span (value? : Char → Option Nat) (cs : List Char) :
    takeMoreDigits value? false cs
      = ((cs.takeWhile fun c => (value? c).isSome).filterMap value?,
        cs.dropWhile fun c => (value? c).isSome) := by
  induction cs with
  | nil => rfl
  | cons c rest ih =>
    -- the reader looks one character ahead, for a separator
    cases rest with
    | nil =>
      rw [takeMoreDigits]
      cases hc : value? c with
      | none => simp [hc]
      | some d => simp [hc]
    | cons next more =>
      rw [takeMoreDigits]
      cases hc : value? c with
      -- where the reading stops nothing is taken, whatever the character behind it may be
      | none =>
        cases hnext : value? next with
        | none => simp [hc]
        | some d => simp [hc]
      | some d => simp [hc, ih]

/-- A reader of digits that takes no separators takes the longest run of digits. -/
theorem takeDigits_eq_span (value? : Char → Option Nat) (cs : List Char) :
    takeDigits value? false cs
      = ((cs.takeWhile fun c => (value? c).isSome).filterMap value?,
        cs.dropWhile fun c => (value? c).isSome) := by
  cases cs with
  | nil => rfl
  | cons c rest =>
    rw [takeDigits, takeMoreDigits_eq_span]
    cases hc : value? c with
    | none => simp [hc]
    | some d => simp [hc]

/-- Text that does not begin with a digit stays behind the digits in front of it. -/
theorem takeDigits_append (value? : Char → Option Nat) (cs : List Char) {rest : List Char}
    (hrest : ∀ c, rest.head? = some c → value? c = none) :
    takeDigits value? false (cs ++ rest)
      = ((takeDigits value? false cs).1, (takeDigits value? false cs).2 ++ rest) := by
  -- behind the digits the reader stops at once
  have hstop : rest.takeWhile (fun c => (value? c).isSome) = []
      ∧ rest.dropWhile (fun c => (value? c).isSome) = rest := by
    cases rest with
    | nil => exact ⟨rfl, rfl⟩
    | cons c rest => simp [hrest c rfl]
  rw [takeDigits_eq_span, takeDigits_eq_span]
  -- without a separator the digits are a longest run, and the run ends with `cs`
  induction cs with
  | nil => simp [hstop]
  | cons c cs ih =>
    cases hc : value? c with
    | none => simp [hc]
    | some d =>
      obtain ⟨htaken, hleft⟩ := Prod.mk.inj ih
      simp only [List.cons_append, List.takeWhile_cons, List.dropWhile_cons, hc, Option.isSome_some,
        if_true, List.filterMap_cons_some hc, htaken, hleft]

/-- Where no low line stands, it does not matter whether one may separate digits. -/
theorem takeMoreDigits_of_notMem (value? : Char → Option Nat) (separators : Bool) {cs : List Char}
    (h : '_' ∉ cs) : takeMoreDigits value? separators cs = takeMoreDigits value? false cs := by
  fun_induction takeMoreDigits value? separators cs with
  | case1 => rfl
  | case2 c d hc => simp [takeMoreDigits, hc]
  | case3 c hc => simp [takeMoreDigits, hc]
  | case4 c next rest d hc digits left hmore ih =>
    rw [takeMoreDigits, ← ih fun hmem => h (List.mem_cons_of_mem c hmem), hmore]
    simp [hc]
  | case5 c next rest hc d hnext hline =>
    -- this would be a separator
    have hc : c = '_' := by simp_all
    exact absurd List.mem_cons_self (hc ▸ h)
  | case6 c next rest hc d hnext hline => simp [takeMoreDigits, hc, hnext]
  | case7 c next rest hc hnext => simp [takeMoreDigits, hc, hnext]

theorem takeDigits_of_notMem (value? : Char → Option Nat) (separators : Bool) {cs : List Char}
    (h : '_' ∉ cs) : takeDigits value? separators cs = takeDigits value? false cs := by
  cases cs with
  | nil => rfl
  | cons c rest =>
    rw [takeDigits, takeDigits,
      takeMoreDigits_of_notMem value? separators fun hmem => h (List.mem_cons_of_mem c hmem)]

/-! ## Values of digits -/

theorem asciiDigit?_eq (c : Char) :
    asciiDigit? c = if c.isDigit then some (c.toNat - 0x30) else none := rfl

theorem asciiDigit?_of_isDigit {c : Char} (h : c.isDigit = true) :
    asciiDigit? c = some (c.toNat - 0x30) := by
  rw [asciiDigit?_eq, if_pos h]

theorem digitValue?_of_isDigit {c : Char} (h : c.isDigit = true) :
    digitValue? c = some (c.toNat - 0x30) := by
  simp only [Char.isDigit, Bool.and_eq_true, decide_eq_true_eq] at h
  have hlow : 0x30 ≤ c.toNat := h.1
  have hhigh : c.toNat < 0x30 + 10 := Nat.lt_succ_of_le h.2
  simp [digitValue?, digitZeros, hlow, hhigh]

theorem isDigit_of_ascii {c : Char} (h : c.isDigit = true) : isDigit c = true := by
  rw [isDigit, digitValue?_of_isDigit h]
  rfl

theorem isDigit_natDigits {n : Nat} {c : Char} (h : c ∈ natDigits n) : isDigit c = true :=
  isDigit_of_ascii (isDigit_of_mem_natDigits h)

/-! ## Digits of a number, read -/

/-- A reader that knows the ASCII digits finds the values of a number's digits. -/
theorem filterMap_natDigits {value? : Char → Option Nat}
    (h : ∀ {c : Char}, c.isDigit = true → value? c = some (c.toNat - 0x30)) (n : Nat) :
    (natDigits n).filterMap value? = (natDigits n).map fun c => c.toNat - 0x30 := by
  rw [List.filterMap_congr fun c hc => h (isDigit_of_mem_natDigits hc), ← List.filterMap_eq_map]
  rfl

theorem takeDigits_natDigits (n : Nat) {rest : List Char}
    (hrest : ∀ c, rest.head? = some c → asciiDigit? c = none) :
    takeDigits asciiDigit? false (natDigits n ++ rest)
      = ((natDigits n).map fun c => c.toNat - 0x30, rest) := by
  have hall : ∀ c ∈ natDigits n, (asciiDigit? c).isSome = true := fun c hc => by
    rw [asciiDigit?_of_isDigit (isDigit_of_mem_natDigits hc)]
    rfl
  rw [takeDigits_append _ _ hrest, takeDigits_eq_span, List.takeWhile_eq_self_iff.mpr hall,
    List.dropWhile_eq_nil_iff.mpr hall, filterMap_natDigits asciiDigit?_of_isDigit,
    List.nil_append]

/-- The digits of a number other than zero begin with no zero. -/
theorem head?_natDigits {n : Nat} (hn : n ≠ 0) : (natDigits n).head? ≠ some '0' := by
  -- all digits but the last are those of the tenth part
  induction n using Nat.strongRecOn with
  | ind n ih =>
    rcases Nat.lt_or_ge n 10 with hlt | hge
    · rw [natDigits, Nat.toDigits_of_lt_base hlt]
      have hdigit : ∀ d < 10, d ≠ 0 → [Nat.digitChar d].head? ≠ some '0' := by decide
      exact hdigit n hlt hn
    · have htenth := ih (n / 10) (by omega) (by omega)
      rw [natDigits, Nat.toDigits_of_base_le (by decide) hge,
        List.head?_append_of_ne_nil _ Nat.toDigits_ne_nil]
      exact htenth

theorem ofDigits_natDigits (n : Nat) :
    ofDigits ((natDigits n).map fun c => c.toNat - 0x30) = n := by
  rw [ofDigits, List.foldl_map]
  exact Nat.ofDigitChars_ten_toDigits

/-- **The digits of a number are read back as a plain integer**, up to the first character that is
no digit. -/
theorem takePlain_natDigits (n : Nat) {rest : List Char}
    (hrest : ∀ c, rest.head? = some c → asciiDigit? c = none) :
    takePlain (natDigits n ++ rest) = ((natDigits n).map fun c => c.toNat - 0x30, rest) := by
  by_cases hn : n = 0
  · subst hn
    rfl
  · rw [takePlain, takeDigits_natDigits n hrest]
    intro more heq
    apply head?_natDigits hn
    rw [← List.head?_append_of_ne_nil (natDigits n) Nat.toDigits_ne_nil, heq]
    rfl

/-! ## Sizes -/

/-- A number with so many digits is less than that power of ten. -/
theorem ofDigits_lt {digits : List Nat} (h : ∀ d ∈ digits, d < 10) :
    ofDigits digits < 10 ^ digits.length := by
  induction digits using List.reverseRecOn with
  | nil => decide
  | append_singleton digits d ih =>
    -- the last digit counts once, what is in front of it ten times
    have hd : d < 10 := h d (by simp)
    have hbefore := ih fun e he => h e (by simp [he])
    have happend : ofDigits (digits ++ [d]) = 10 * ofDigits digits + d := by
      simp [ofDigits]
    rw [happend, List.length_append, List.length_singleton, Nat.pow_succ]
    omega

/-- A number that is made of no more digits than are read has no more either. -/
theorem length_natDigits_le {digits : List Nat} (h : ∀ d ∈ digits, d < 10)
    (hlength : digits.length ≤ maxIntegerDigits) :
    (natDigits (ofDigits digits)).length ≤ maxIntegerDigits := by
  have hlt := (ofDigits_lt h).trans_le (Nat.pow_le_pow_right (by decide) hlength)
  exact Nat.toDigits_length 10 _ _ (by decide) hlt

theorem asciiDigit?_lt {c : Char} {d : Nat} (h : asciiDigit? c = some d) : d < 10 := by
  rw [asciiDigit?_eq] at h
  split at h
  case isFalse => cases h
  case isTrue hdigit =>
    simp only [Char.isDigit, Bool.and_eq_true, decide_eq_true_eq] at hdigit
    have hhigh : c.toNat < 0x30 + 10 := Nat.lt_succ_of_le hdigit.2
    obtain rfl := Option.some.inj h
    omega

/-- A digit of a plain integer is less than ten. -/
theorem lt_of_mem_takePlain {cs : List Char} {d : Nat} (h : d ∈ (takePlain cs).1) : d < 10 := by
  rw [takePlain.eq_def] at h
  split at h
  case h_1 => exact List.mem_singleton.mp h ▸ Nat.succ_pos 9
  case h_2 =>
    rw [takeDigits_eq_span] at h
    obtain ⟨c, -, hc⟩ := List.mem_filterMap.mp h
    exact asciiDigit?_lt hc

end SheetRecall.Decimal
