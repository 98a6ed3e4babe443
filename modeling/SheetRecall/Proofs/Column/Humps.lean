import SheetRecall.Proofs.Column.Stored

/-!
# Stored Names, Character by Character

The stored spelling of a name is its lower-case form with a low line in each hump, that is between
a small ASCII letter and the ASCII capital behind it.  Lower case looks at the neighbours of a
capital sigma, so the low lines must not come between a sigma and what it looks at: they stand
between letters, and a letter stops that look before it meets a low line.

## Layers
- `lowerAfter_eq_flatMap`: a lower-case form is made of one piece for each character (`lowerAt`).
- `meetsCased_splitHumps`: low lines in humps are not seen from outside.
- `lowerAfter_splitHumps`: they change no piece.
- `stored_normalizes`: all that is said of stored names.
-/

namespace SheetRecall

namespace Text

/-! ## Pieces of a lower-case form -/

/-- What the character at a place becomes in the lower-case form of a text behind the characters
`before`, which are nearest first. -/
def lowerAt (before cs : List Char) (i : Nat) : List Char :=
  match cs[i]? with
  | none => []
  | some c =>
    if c = 'Σ' then
      [if endsWord ((cs.take i).reverse ++ before) (cs.drop (i + 1)) then 'ς' else 'σ']
    else lowerChar c

theorem lowerAt_zero (before : List Char) (c : Char) (rest : List Char) :
    lowerAt before (c :: rest) 0
      = if c = 'Σ' then [if endsWord before rest then 'ς' else 'σ'] else lowerChar c := rfl

/-- Behind its first character, a text is one that has that character before it. -/
theorem lowerAt_succ (before : List Char) (c : Char) (rest : List Char) (i : Nat) :
    lowerAt before (c :: rest) (i + 1) = lowerAt (c :: before) rest i := by
  have hbefore : ((c :: rest).take (i + 1)).reverse ++ before
      = (rest.take i).reverse ++ c :: before := by simp
  simp only [lowerAt, List.getElem?_cons_succ, hbefore, List.drop_succ_cons]

/-- A text's places, the first one and those behind it. -/
private theorem flatMap_range_cons {α β : Type} (a : α) (rest : List α) (f : Nat → List β) :
    (List.range (a :: rest).length).flatMap f
      = f 0 ++ (List.range rest.length).flatMap fun i => f (i + 1) := by
  rw [List.length_cons, List.range_succ_eq_map, List.flatMap_cons, List.flatMap_map]

/-- **A lower-case form is made of the forms of its characters**, in their order. -/
theorem lowerAfter_eq_flatMap (before cs : List Char) :
    lowerAfter before cs = (List.range cs.length).flatMap (lowerAt before cs) := by
  induction cs generalizing before with
  | nil => rfl
  | cons c rest ih =>
    rw [flatMap_range_cons, lowerAfter, lowerAt_zero, ih]
    simp only [lowerAt_succ]

/-! ## What a sigma looks at -/

/-- Characters in a gap of the ranges are in none of them. -/
private theorem not_has_of_gap {ranges : CodeRanges} (low high : Nat)
    (h : (ranges.all fun range => range.2 < low || high < range.1) = true) {c : Char}
    (hlow : low ≤ c.toNat) (hhigh : c.toNat ≤ high) : ranges.has c = false := by
  rw [CodeRanges.has, List.any_eq_false]
  intro range hrange
  have hgap := List.all_eq_true.mp h range hrange
  simp only [Bool.or_eq_true, decide_eq_true_eq] at hgap
  simp only [Bool.and_eq_true, decide_eq_true_eq, not_and]
  omega

/-- A character that is not skipped decides. -/
theorem meetsCased_cons_of_not_ignorable {c : Char} (h : caseIgnorableRanges.has c = false)
    (rest : List Char) : meetsCased (c :: rest) = casedRanges.has c := by
  rw [meetsCased, List.find?_cons_of_pos (by simp [h])]

theorem meetsCased_cons_of_ignorable {c : Char} (h : caseIgnorableRanges.has c = true)
    (rest : List Char) : meetsCased (c :: rest) = meetsCased rest := by
  rw [meetsCased, List.find?_cons_of_neg (by simp [h]), meetsCased]

end Text

namespace Column

open SheetRecall.Text

/-! ## Humps -/

/-- A small letter is not skipped. -/
theorem not_ignorable_of_isSmall {c : Char} (h : isSmall c = true) :
    caseIgnorableRanges.has c = false := by
  simp only [isSmall, Bool.and_eq_true, decide_eq_true_eq] at h
  exact not_has_of_gap 0x61 0x7a (by decide +kernel) h.1 h.2

/-- A capital is not skipped. -/
theorem not_ignorable_of_isCapital {c : Char} (h : isCapital c = true) :
    caseIgnorableRanges.has c = false := by
  simp only [isCapital, Bool.and_eq_true, decide_eq_true_eq] at h
  exact not_has_of_gap 0x41 0x5a (by decide +kernel) h.1 h.2

/-- A small letter at a place, and a capital behind it. -/
def isHump (cs : List Char) (i : Nat) : Bool := cs[i]?.any isSmall && cs[i + 1]?.any isCapital

/-- The low line behind the character at a place, if there is a hump. -/
def seam (cs : List Char) (i : Nat) : List Char := if isHump cs i then ['_'] else []

theorem seam_succ (c : Char) (rest : List Char) (i : Nat) :
    seam (c :: rest) (i + 1) = seam rest i := rfl

theorem seam_eq_nil_of_not_isSmall {c : Char} (h : isSmall c = false) (rest : List Char) :
    seam (c :: rest) 0 = [] := by
  simp [seam, isHump, h]

theorem splitHumps_cons (c : Char) (rest : List Char) :
    splitHumps (c :: rest) = c :: (seam (c :: rest) 0 ++ splitHumps rest) := by
  cases rest with
  | nil => simp [splitHumps, seam, isHump]
  | cons d more =>
    rw [splitHumps, seam, isHump]
    simp only [List.getElem?_cons_zero, List.getElem?_cons_succ, Option.any_some]
    split <;> rfl

/-- Low lines in humps are not seen by a sigma in front of them. -/
theorem meetsCased_splitHumps (cs : List Char) : meetsCased (splitHumps cs) = meetsCased cs := by
  induction cs with
  | nil => rfl
  | cons c rest ih =>
    rw [splitHumps_cons]
    cases hskip : caseIgnorableRanges.has c with
    | false =>
      rw [meetsCased_cons_of_not_ignorable hskip, meetsCased_cons_of_not_ignorable hskip]
    | true =>
      -- what is skipped is no small letter, so there is no low line behind it
      have hsmall : isSmall c = false := by
        rw [Bool.eq_false_iff]
        exact fun h => absurd (hskip.symm.trans (not_ignorable_of_isSmall h)) (by decide)
      rw [meetsCased_cons_of_ignorable hskip, meetsCased_cons_of_ignorable hskip,
        seam_eq_nil_of_not_isSmall hsmall, List.nil_append, ih]

/-! ## Stored characters -/

/-- A text does not tell the characters before it apart: they show a sigma the same, or the text
begins with a capital, which looks at nothing and hides what is before it. -/
def SameBefore (before before' cs : List Char) : Prop :=
  meetsCased before = meetsCased before' ∨ ∃ c, cs.head? = some c ∧ isCapital c = true

/-- Behind its first character a text does not tell them apart either. -/
theorem SameBefore.meetsCased_cons {before before' : List Char} {c : Char} {rest : List Char}
    (h : SameBefore before before' (c :: rest)) :
    meetsCased (c :: before) = meetsCased (c :: before') := by
  cases hskip : caseIgnorableRanges.has c with
  | false => rw [meetsCased_cons_of_not_ignorable hskip, meetsCased_cons_of_not_ignorable hskip]
  | true =>
    rw [meetsCased_cons_of_ignorable hskip, meetsCased_cons_of_ignorable hskip]
    rcases h with hsame | ⟨d, hd, hcapital⟩
    · exact hsame
    · obtain rfl := Option.some.inj hd
      exact absurd (hskip.symm.trans (not_ignorable_of_isCapital hcapital)) (by decide)

/-- **Low lines in humps change no piece of the lower-case form.** -/
theorem lowerAfter_splitHumps {before before' cs : List Char} (h : SameBefore before before' cs) :
    lowerAfter before' (splitHumps cs)
      = (List.range cs.length).flatMap fun i => lowerAt before cs i ++ seam cs i := by
  induction cs generalizing before before' with
  | nil => rfl
  -- both sides are read from the left: the character with its seam, then the rest
  | cons c rest ih =>
    rw [flatMap_range_cons, splitHumps_cons, lowerAfter, lowerAt_zero]
    simp only [lowerAt_succ, seam_succ]
    -- only a final sigma depends on its surroundings, and the low lines do not change those
    have hpiece : (if c = 'Σ' then
          [if endsWord before' (seam (c :: rest) 0 ++ splitHumps rest) then 'ς' else 'σ']
          else lowerChar c)
        = if c = 'Σ' then [if endsWord before rest then 'ς' else 'σ'] else lowerChar c := by
      split
      case isTrue hsigma =>
        subst hsigma
        have hsame : meetsCased before = meetsCased before' := by
          refine h.resolve_right ?_
          rintro ⟨d, hd, hcapital⟩
          obtain rfl := Option.some.inj hd
          exact absurd hcapital (by decide)
        rw [seam_eq_nil_of_not_isSmall (by decide), List.nil_append, endsWord, endsWord,
          meetsCased_splitHumps, hsame]
      case isFalse => rfl
    rw [hpiece, List.append_assoc]
    congr 1
    -- the rest follows the character, and the low line if there is one
    unfold seam
    split
    case isTrue hhump =>
      -- behind a low line stands a capital, for which it does not matter what the low line hides
      have hline : lowerChar '_' = ['_'] := by decide +kernel
      have hcapital : ∃ d, rest.head? = some d ∧ isCapital d = true := by
        simp only [isHump, Bool.and_eq_true, Option.any_eq_true] at hhump
        obtain ⟨-, d, hd, hd'⟩ := hhump
        exact ⟨d, by simpa [List.head?_eq_getElem?] using hd, hd'⟩
      rw [List.singleton_append, lowerAfter, if_neg (by decide), hline,
        ih (Or.inr hcapital : SameBefore (c :: before) ('_' :: c :: before') rest)]
      rfl
    case isFalse => exact ih (Or.inl h.meetsCased_cons)

/-- The stored characters are the pieces of the lower-case form with the low lines of the humps. -/
theorem storedChars_eq_flatMap (cs : List Char) :
    storedChars cs = (List.range cs.length).flatMap fun i => lowerAt [] cs i ++ seam cs i :=
  lowerAfter_splitHumps (Or.inl rfl)

/-! ## Main statement -/

/-- **Storing a name is a projection onto names in lower case.**  A stored name is stored as it
is; none of its characters is an ASCII capital or has another lower-case form; and piece by piece
it is the lower-case form of the name, with one low line in each hump and nothing else. -/
theorem stored_normalizes (name : String) :
    stored (stored name) = stored name
      ∧ (∀ c ∈ (stored name).toList, lowerChars [c] = [c] ∧ ¬ ('A' ≤ c ∧ c ≤ 'Z'))
      ∧ lower (stored name) = stored name
      ∧ (lower name).toList
        = (List.range name.toList.length).flatMap (lowerAt [] name.toList)
      ∧ (stored name).toList
        = (List.range name.toList.length).flatMap fun i =>
          lowerAt [] name.toList i ++ if isHump name.toList i then ['_'] else [] := by
  refine ⟨stored_stored name, ?_, lower_stored name, ?_, ?_⟩
  · intro c hc
    rw [stored, String.toList_ofList] at hc
    have hlower := isLower_of_mem_storedChars hc
    refine ⟨lowerChars_eq_self fun d hd => ?_, hlower.not_capital⟩
    rw [List.mem_singleton.mp hd]
    exact hlower
  · rw [lower, String.toList_ofList, lowerChars, lowerAfter_eq_flatMap]
  · rw [stored, String.toList_ofList, storedChars_eq_flatMap]
    rfl

end Column

end SheetRecall
