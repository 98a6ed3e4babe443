import SheetRecall.Json.Reader
import SheetRecall.Json.Writer
import SheetRecall.Proofs.Decimal.Binary
import SheetRecall.Proofs.Decimal.Digits

/-!
# JSON Numbers Are Read Back

Numbers have no closing mark: where one ends shows by the character behind it.  What may follow a
value inside a list or a map, a comma or a closing bracket, ends every number.

## Main statements
- `readWordOrNumber_append`: a word or a number that is read alone is read in front of such a
  character, too.
- `readWordOrNumber_intChars`: an integer is read back, unless it has more digits than are read.
- `readWordOrNumber_floatChars`: a double is read back, if its digits are.
-/

namespace SheetRecall.Json

open SheetRecall.Text SheetRecall.Decimal

/-! ## What ends a number -/

/-- The text is at its end or goes on with a comma or a closing bracket. -/
def EndsValue (rest : List Char) : Prop :=
  rest.head?.all (fun c => c = ',' || c = ']' || c = '}') = true

/-- What ends a value has no digit in front. -/
theorem EndsValue.asciiDigit?_eq_none {rest : List Char} (h : EndsValue rest) :
    ∀ c, rest.head? = some c → asciiDigit? c = none := by
  intro c hc
  have hmark : (c = ',' ∨ c = ']') ∨ c = '}' := by simpa [EndsValue, hc] using h
  rcases hmark with (rfl | rfl) | rfl <;> decide

/-- What ends a value begins with none of the characters that go on with a number. -/
theorem EndsValue.ne_cons {rest : List Char} (h : EndsValue rest) {c : Char}
    (hc : (c = ',' || c = ']' || c = '}') = false) (more : List Char) : rest ≠ c :: more := by
  rintro rfl
  rw [EndsValue, List.head?_cons, Option.all_some, hc] at h
  exact absurd h (by decide)

/-! ## Numbers in front of other text -/

/-- Digits are taken from in front of what ends a value. -/
theorem takeAsciiDigits_append (cs : List Char) {rest : List Char} (hrest : EndsValue rest) :
    takeAsciiDigits (cs ++ rest)
      = ((takeAsciiDigits cs).1, (takeAsciiDigits cs).2 ++ rest) :=
  takeDigits_append _ cs hrest.asciiDigit?_eq_none

private theorem takePlain_of_ne {cs : List Char} (h : ∀ more, cs ≠ '0' :: more) :
    takePlain cs = takeAsciiDigits cs := by
  rw [takePlain]
  · rfl
  · exact h

theorem takePlain_append (cs : List Char) {rest : List Char} (hrest : EndsValue rest) :
    takePlain (cs ++ rest) = ((takePlain cs).1, (takePlain cs).2 ++ rest) := by
  -- a zero in front is taken alone
  by_cases hzero : ∃ more, cs = '0' :: more
  · obtain ⟨more, rfl⟩ := hzero
    rfl
  · have hne : ∀ more, cs ≠ '0' :: more := fun more heq => hzero ⟨more, heq⟩
    have hnever : ∀ more, cs ++ rest ≠ '0' :: more := by
      cases cs with
      | nil => exact hrest.ne_cons rfl
      | cons c cs =>
        intro more heq
        exact hne cs (by rw [(List.cons.inj heq).1])
    rw [takePlain_of_ne hne, takePlain_of_ne hnever]
    exact takeAsciiDigits_append cs hrest

theorem takeFraction_append (cs : List Char) {rest : List Char} (hrest : EndsValue rest) :
    takeFraction (cs ++ rest)
      = (takeFraction cs).map fun (digits, left) => (digits, left ++ rest) := by
  -- a fraction begins with its point, which nothing behind a value does
  have hnone : ∀ cs, (∀ more, cs ≠ '.' :: more) → takeFraction cs = none := by
    intro cs hcs
    rw [takeFraction]
    exact hcs
  cases cs with
  | nil => exact hnone rest (hrest.ne_cons rfl)
  | cons c more =>
    by_cases hpoint : c = '.'
    · subst hpoint
      rw [List.cons_append, takeFraction, takeFraction, takeAsciiDigits_append more hrest]
      -- a point without digits behind it is no fraction, with or without the text that follows
      rcases takeAsciiDigits more with ⟨_ | ⟨d, digits⟩, left⟩ <;> rfl
    · have hother : ∀ tail more, c :: tail ≠ '.' :: more := fun _ _ heq =>
        hpoint (List.cons.inj heq).1
      rw [List.cons_append, hnone _ (hother _), hnone _ (hother _)]
      rfl

theorem takeSign_append (cs : List Char) {rest : List Char} (hrest : EndsValue rest) :
    takeSign (cs ++ rest) = ((takeSign cs).1, (takeSign cs).2 ++ rest) := by
  -- a text without a sign is left as it is
  have hnone : ∀ cs, (∀ more, cs ≠ '-' :: more) → (∀ more, cs ≠ '+' :: more) →
      takeSign cs = (false, cs) := by
    intro cs hminus hplus
    rw [takeSign]
    · exact hminus
    · exact hplus
  cases cs with
  | nil => exact hnone rest (hrest.ne_cons rfl) (hrest.ne_cons rfl)
  | cons c more =>
    by_cases hminus : c = '-'
    · subst hminus
      rfl
    by_cases hplus : c = '+'
    · subst hplus
      rfl
    have hother : ∀ tail, takeSign (c :: tail) = (false, c :: tail) := fun tail =>
      hnone _ (fun _ heq => hminus (List.cons.inj heq).1) fun _ heq => hplus (List.cons.inj heq).1
    rw [List.cons_append, hother, hother]
    rfl

theorem takePower_append (cs : List Char) {rest : List Char} (hrest : EndsValue rest) :
    takePower (cs ++ rest)
      = (takePower cs).map fun (exponent, left) => (exponent, left ++ rest) := by
  cases cs with
  | nil =>
    cases rest with
    | nil => rfl
    | cons c more =>
      -- what ends a value is no letter of an exponent
      have hletter : ¬ (c = 'e' || c = 'E') = true := by
        rw [Bool.or_eq_true, decide_eq_true_eq, decide_eq_true_eq]
        rintro (rfl | rfl)
        · exact hrest.ne_cons rfl more rfl
        · exact hrest.ne_cons rfl more rfl
      rw [List.nil_append, takePower, if_neg hletter]
      rfl
  | cons c more =>
    rw [List.cons_append, takePower, takePower]
    split
    case isFalse => rfl
    case isTrue =>
      rw [takeSign_append more hrest]
      simp only [takeAsciiDigits_append _ hrest]
      rcases takeAsciiDigits (takeSign more).2 with ⟨_ | ⟨d, digits⟩, left⟩ <;> rfl

/-- A number that is read alone is read in front of what ends a value, too. -/
theorem readNumber_append {m : Manner} {neg : Bool} {cs left : List Char} {v : Value}
    (h : readNumber m neg cs = .ok (v, left)) {rest : List Char} (hrest : EndsValue rest) :
    readNumber m neg (cs ++ rest) = .ok (v, left ++ rest) := by
  rw [readNumber] at h ⊢
  rw [takePlain_append cs hrest]
  -- a number has a whole part, and one that is too long is refused with or without what follows
  generalize takePlain cs = taken at h ⊢
  obtain ⟨_ | ⟨d, whole⟩, behind⟩ := taken
  · exact absurd h (by simp)
  simp only at h ⊢
  split at h
  case isTrue => exact absurd h (by simp)
  case isFalse hshort =>
    rw [if_neg hshort, takeFraction_append behind hrest]
    -- fraction and exponent are taken or left alike with and without the text that follows
    cases hfraction : takeFraction behind with
    | some taken =>
      obtain ⟨fraction, afterwards⟩ := taken
      simp only [hfraction, Option.map_some] at h ⊢
      rw [takePower_append afterwards hrest]
      cases hpower : takePower afterwards with
      | none =>
        simp only [hpower, Option.map_none, Option.getD_none, Except.ok.injEq,
          Prod.mk.injEq] at h ⊢
        exact ⟨h.1, by rw [h.2]⟩
      | some power =>
        simp only [hpower, Option.map_some, Option.getD_some, Except.ok.injEq,
          Prod.mk.injEq] at h ⊢
        exact ⟨h.1, by rw [h.2]⟩
    | none =>
      simp only [hfraction, Option.map_none] at h ⊢
      rw [takePower_append behind hrest]
      cases hpower : takePower behind with
      | some power =>
        simp only [hpower, Option.map_some, Except.ok.injEq, Prod.mk.injEq] at h ⊢
        exact ⟨h.1, by rw [h.2]⟩
      | none =>
        simp only [hpower, Option.map_none] at h ⊢
        split at h
        case isTrue => exact absurd h (by simp)
        case isFalse hdigits =>
          rw [if_neg hdigits]
          simp only [Except.ok.injEq, Prod.mk.injEq] at h ⊢
          exact ⟨h.1, by rw [h.2]⟩

/-! ## Words and numbers -/

/-- A number begins with a digit. -/
theorem exists_digit_of_readNumber {m : Manner} {neg : Bool} {cs : List Char}
    {read : Value × List Char} (h : readNumber m neg cs = .ok read) :
    ∃ c more, cs = c :: more ∧ c.isDigit = true := by
  cases cs with
  | nil => exact absurd h (by simp [readNumber, takePlain, takeDigits])
  | cons c more =>
    refine ⟨c, more, rfl, ?_⟩
    by_contra hdigit
    have hvalue : asciiDigit? c = none := by
      rw [asciiDigit?_eq, if_neg hdigit]
    have hzero : ∀ tail, c :: more ≠ '0' :: tail := by
      intro tail heq
      rw [(List.cons.inj heq).1] at hvalue
      exact absurd hvalue (by decide)
    -- without a digit in front no digits are taken
    have hplain : takePlain (c :: more) = ([], c :: more) := by
      rw [takePlain_of_ne hzero, takeAsciiDigits, takeDigits, hvalue]
    rw [readNumber, hplain] at h
    exact absurd h (by simp)

/-- A digit begins a number and no word. -/
theorem readWordOrNumber_of_digit (m : Manner) {c : Char} (hc : c.isDigit = true)
    (more : List Char) : readWordOrNumber m (c :: more) = readNumber m false (c :: more) := by
  have hne : ∀ {d : Char}, d.isDigit = false → ∀ tail, c :: more ≠ d :: tail := by
    intro d hd tail heq
    rw [(List.cons.inj heq).1, hd] at hc
    exact absurd hc (by decide)
  rw [readWordOrNumber]
  all_goals exact fun _ => hne rfl _

theorem readWordOrNumber_of_minus (m : Manner) {c : Char} (hc : c.isDigit = true)
    (more : List Char) :
    readWordOrNumber m ('-' :: c :: more) = readNumber m true (c :: more) := by
  rw [readWordOrNumber]
  rintro tail heq
  rw [(List.cons.inj heq).1] at hc
  exact absurd hc (by decide)

/-- A word or a number that is read alone is read in front of what ends a value, too. -/
theorem readWordOrNumber_append {m : Manner} {cs left : List Char} {v : Value}
    (h : readWordOrNumber m cs = .ok (v, left)) {rest : List Char} (hrest : EndsValue rest) :
    readWordOrNumber m (cs ++ rest) = .ok (v, left ++ rest) := by
  unfold readWordOrNumber at h
  -- a minus or a digit opens a number, and everything else is a word
  split at h
  case h_7 more _ =>
    obtain ⟨c, tail, rfl, hc⟩ := exists_digit_of_readNumber h
    have happend := readNumber_append h hrest
    rw [List.cons_append, List.cons_append, readWordOrNumber_of_minus m hc]
    exact happend
  case h_8 =>
    obtain ⟨c, tail, rfl, hc⟩ := exists_digit_of_readNumber h
    have happend := readNumber_append h hrest
    rw [List.cons_append, readWordOrNumber_of_digit m hc]
    exact happend
  -- the words are read by their letters alone
  all_goals
    simp only [Except.ok.injEq, Prod.mk.injEq] at h
    obtain ⟨rfl, rfl⟩ := h
    rfl

/-! ## Written numbers -/

/-- The digits of a number are read back behind its sign. -/
theorem readNumber_natDigits (m : Manner) (neg : Bool) {n : Nat}
    (hn : (natDigits n).length ≤ maxIntegerDigits) {rest : List Char} (hrest : EndsValue rest) :
    readNumber m neg (natDigits n ++ rest) = .ok (.int (if neg then -(n : Int) else n), rest) := by
  have hplain := takePlain_natDigits n hrest.asciiDigit?_eq_none
  -- neither a fraction nor an exponent follows the digits
  have hfraction : takeFraction rest = none := by
    have happend := takeFraction_append [] hrest
    exact happend
  have hpower : takePower rest = none := by
    have happend := takePower_append [] hrest
    exact happend
  have hvalue := ofDigits_natDigits n
  have hlength : ((natDigits n).map fun c => c.toNat - 0x30).length ≤ maxIntegerDigits := by
    rw [List.length_map]
    exact hn
  rw [readNumber, hplain]
  have hne : ((natDigits n).map fun c => c.toNat - 0x30) ≠ [] := by
    rw [ne_eq, List.map_eq_nil_iff]
    exact Nat.toDigits_ne_nil
  -- from here on only the number and the count of the digits matter
  generalize ((natDigits n).map fun c => c.toNat - 0x30) = whole at hvalue hlength hne
  cases whole with
  | nil => exact absurd rfl hne
  | cons d digits =>
    have hlong : isLongWhole m (d :: digits) = false := by
      rw [isLongWhole, decide_eq_false (Nat.not_lt.mpr hlength), Bool.and_false]
    simp only [hlong, hfraction, hpower, Bool.false_eq_true, if_false, Nat.not_lt.mpr hlength,
      hvalue]
    rfl

/-- **An integer is read back**, unless it has more digits than are read. -/
theorem readWordOrNumber_intChars (m : Manner) {n : Int}
    (hn : (natDigits n.natAbs).length ≤ maxIntegerDigits) {rest : List Char}
    (hrest : EndsValue rest) :
    readWordOrNumber m (intChars n ++ rest) = .ok (.int n, rest) := by
  cases n with
  -- a natural number opens with a digit, a negative one with its sign
  | ofNat n =>
    obtain ⟨c, more, hdigits, hc⟩ := exists_digit_natDigits n
    have hshort : (natDigits n).length ≤ maxIntegerDigits := hn
    have hread := readNumber_natDigits m false hshort hrest
    rw [hdigits, List.cons_append] at hread
    rw [intChars, hdigits, List.cons_append, readWordOrNumber_of_digit m hc, hread]
    rfl
  | negSucc n =>
    obtain ⟨c, more, hdigits, hc⟩ := exists_digit_natDigits (n + 1)
    have hshort : (natDigits (n + 1)).length ≤ maxIntegerDigits := hn
    have hread := readNumber_natDigits m true hshort hrest
    rw [hdigits, List.cons_append] at hread
    rw [intChars, hdigits, List.cons_append, List.cons_append, readWordOrNumber_of_minus m hc,
      hread]
    rfl

/-! ## Written doubles -/

/-- The digits of a double are read as that double, with nothing left over. -/
def FloatReadsBack (m : Manner) (x : Float) : Prop :=
  readWordOrNumber m (floatChars floatSpellings x) = .ok (.float x, [])

/-- An infinity is read back from its name. -/
theorem floatReadsBack_infinity (m : Manner) (neg : Bool) : FloatReadsBack m (infinity neg) := by
  cases neg with
  | true =>
    have hparts : parts (infinity true) = .infinite true := by decide
    rw [FloatReadsBack, floatChars, hparts]
    rfl
  | false =>
    have hparts : parts (infinity false) = .infinite false := by decide
    rw [FloatReadsBack, floatChars, hparts]
    rfl

/-- **A double other than the one that is no number is read back**, if the digits of the finite
ones are. -/
theorem readWordOrNumber_floatChars (m : Manner) {x : Float} (hnan : x.isNaN = false)
    (hdigits : isFinite x = true → FloatReadsBack m x) {rest : List Char}
    (hrest : EndsValue rest) :
    readWordOrNumber m (floatChars floatSpellings x ++ rest) = .ok (.float x, rest) := by
  have hback : FloatReadsBack m x := by
    -- the infinities are read back by name, the finite ones by assumption
    cases hparts : parts x with
    | nan => exact absurd hparts (parts_ne_nan hnan)
    | infinite neg =>
      rw [eq_infinity_of_parts hparts]
      exact floatReadsBack_infinity m neg
    | finite neg mantissa exponent => exact hdigits (by rw [isFinite, hparts])
  exact readWordOrNumber_append hback hrest

end SheetRecall.Json
