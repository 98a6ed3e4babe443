import Mathlib.Data.List.DropRight
import Mathlib.Data.List.Infix
import SheetRecall.Text.Slice

/-!
# Trimming and Lines

A text is trimmed at its ends only, so whatever stands between two characters of it that are no
blanks stays.  Lines that hold no line end are the lines of the text that they make, each with a
line feed behind it.

## Main statements
- `trimBy_append`, `trimBy_dropWhile`: blanks at either end do not matter.
- `trimBy_append_cons`: a text is trimmed behind a character that stays.
- `lines_flatMap`: lines are read back.
- `cutAt?_eq_none_iff`: a text is cut at a word exactly if the word occurs in it.
- `cutAt?_eq_some_iff`: it is cut where the word stands first.
-/

namespace SheetRecall.Text

/-! ## Characters and their classes -/

@[simp]
theorem isBlank_space : isBlank ' ' = true := by decide

@[simp]
theorem isBlank_comma : isBlank ',' = false := by decide

@[simp]
theorem isBlank_colon : isBlank ':' = false := by decide

@[simp]
theorem isBlank_stop : isBlank '.' = false := by decide

@[simp]
theorem isDigit_comma : isDigit ',' = false := by decide

@[simp]
theorem isDigit_colon : isDigit ':' = false := by decide

/-- A character outside a class is none of the characters of the class. -/
theorem notMem_of_class {inClass : Char → Bool} {cs : List Char}
    (h : ∀ d ∈ cs, inClass d = true) {c : Char} (hc : inClass c = false) : c ∉ cs := by
  intro hmem
  rw [h c hmem] at hc
  cases hc

/-! ## Trimming -/

section Trimming

variable {inClass : Char → Bool}

theorem trimBy_eq_rdropWhile (cs : List Char) :
    trimBy inClass cs = (cs.dropWhile inClass).rdropWhile inClass := rfl

/-- Characters of the class at the end are dropped. -/
theorem rdropWhile_append {trail : List Char} (h : ∀ c ∈ trail, inClass c = true)
    (cs : List Char) : (cs ++ trail).rdropWhile inClass = cs.rdropWhile inClass := by
  rw [List.rdropWhile, List.reverse_append, List.dropWhile_append,
    List.dropWhile_eq_nil_iff.mpr fun c hc => h c (List.mem_reverse.mp hc)]
  rfl

/-- Nothing is dropped behind a character that stays. -/
theorem dropWhile_append_cons {c : Char} (h : inClass c = false) (before after : List Char) :
    (before ++ c :: after).dropWhile inClass = before.dropWhile inClass ++ c :: after := by
  rw [List.dropWhile_append, List.dropWhile_cons_of_neg (by simp [h])]
  split
  case isTrue hempty => rw [List.isEmpty_iff.mp hempty, List.nil_append]
  case isFalse => rfl

/-- From the end, nothing is dropped in front of a character that stays. -/
theorem rdropWhile_append_cons {c : Char} (h : inClass c = false) (before after : List Char) :
    (before ++ c :: after).rdropWhile inClass = before ++ c :: after.rdropWhile inClass := by
  simp [List.rdropWhile, dropWhile_append_cons h]

/-- Blanks at the end do not matter. -/
theorem trimBy_append {trail : List Char} (h : ∀ c ∈ trail, inClass c = true) (cs : List Char) :
    trimBy inClass (cs ++ trail) = trimBy inClass cs := by
  rw [trimBy_eq_rdropWhile, trimBy_eq_rdropWhile, List.dropWhile_append]
  split
  case isTrue hempty =>
    rw [List.isEmpty_iff.mp hempty, List.dropWhile_eq_nil_iff.mpr h]
  case isFalse => exact rdropWhile_append h _

/-- Blanks in front do not matter. -/
theorem trimBy_dropWhile (cs : List Char) :
    trimBy inClass (cs.dropWhile inClass) = trimBy inClass cs := by
  rw [trimBy_eq_rdropWhile, trimBy_eq_rdropWhile, List.dropWhile_idempotent]

theorem trimBy_cons_of_pos {c : Char} (h : inClass c = true) (cs : List Char) :
    trimBy inClass (c :: cs) = trimBy inClass cs := by
  rw [trimBy_eq_rdropWhile, trimBy_eq_rdropWhile, List.dropWhile_cons_of_pos h]

/-- A text that begins with a character that stays is trimmed at its end only. -/
theorem trimBy_cons_of_neg {c : Char} (h : inClass c = false) (cs : List Char) :
    trimBy inClass (c :: cs) = c :: cs.rdropWhile inClass := by
  rw [trimBy_eq_rdropWhile, List.dropWhile_cons_of_neg (by simp [h])]
  exact rdropWhile_append_cons h [] cs

/-- What is dropped at the end is what the text has behind the trimmed one. -/
theorem exists_rdropWhile_append (cs : List Char) :
    ∃ trail, cs = cs.rdropWhile inClass ++ trail ∧ ∀ c ∈ trail, inClass c = true := by
  refine ⟨cs.rtakeWhile inClass, List.rdropWhile_append_rtakeWhile.symm, fun c hc => ?_⟩
  exact List.mem_rtakeWhile_imp hc

/-- Trimming the end first changes nothing. -/
theorem trimBy_rdropWhile (cs : List Char) :
    trimBy inClass (cs.rdropWhile inClass) = trimBy inClass cs := by
  obtain ⟨trail, hcs, htrail⟩ := @exists_rdropWhile_append inClass cs
  conv_rhs => rw [hcs]
  exact (trimBy_append htrail _).symm

theorem trimBy_trimBy (cs : List Char) :
    trimBy inClass (trimBy inClass cs) = trimBy inClass cs := by
  conv_lhs => rw [trimBy_eq_rdropWhile cs, trimBy_rdropWhile, trimBy_dropWhile]

/-- A text without characters of the class keeps its ends. -/
theorem trimBy_eq_self_of_forall {cs : List Char} (h : ∀ c ∈ cs, inClass c = false) :
    trimBy inClass cs = cs := by
  have hdrop : cs.dropWhile inClass = cs := by
    rw [List.dropWhile_eq_self_iff]
    intro hpos
    simp [h _ (List.getElem_mem hpos)]
  rw [trimBy_eq_rdropWhile, hdrop, List.rdropWhile_eq_self_iff]
  intro hne
  simp [h _ (List.getLast_mem hne)]

/-- A trimmed text is a part of the text. -/
theorem infix_trimBy (cs : List Char) : trimBy inClass cs <:+: cs := by
  rw [trimBy_eq_rdropWhile]
  exact (List.rdropWhile_prefix _ _).isInfix.trans (List.dropWhile_suffix _).isInfix

theorem length_trimBy_le (cs : List Char) : (trimBy inClass cs).length ≤ cs.length :=
  List.IsInfix.length_le <| infix_trimBy cs

/-- A text that is trimmed already begins with a character that stays, if it has any. -/
theorem head_of_trimBy_eq_self {c : Char} {cs : List Char}
    (h : trimBy inClass (c :: cs) = c :: cs) : inClass c = false := by
  by_contra hc
  rw [Bool.not_eq_false] at hc
  -- a text that loses its first character gets shorter
  rw [trimBy_cons_of_pos hc] at h
  have hlength := @length_trimBy_le inClass cs
  rw [h, List.length_cons] at hlength
  omega

/-- A text that is trimmed already ends with a character that stays, if it has any. -/
theorem last_of_trimBy_eq_self {c : Char} {cs : List Char}
    (h : trimBy inClass (cs ++ [c]) = cs ++ [c]) : inClass c = false := by
  by_contra hc
  rw [Bool.not_eq_false] at hc
  -- a text that loses its last character gets shorter
  rw [trimBy_append (by simp [hc])] at h
  have hlength := @length_trimBy_le inClass cs
  rw [h, List.length_append, List.length_singleton] at hlength
  omega

/-- A text is trimmed outside two characters that stay, and whatever stands between them does. -/
theorem trimBy_around {c d : Char} (hc : inClass c = false) (hd : inClass d = false)
    (pre between post : List Char) :
    trimBy inClass (pre ++ c :: (between ++ d :: post))
      = pre.dropWhile inClass ++ c :: (between ++ d :: post.rdropWhile inClass) := by
  rw [trimBy_eq_rdropWhile, dropWhile_append_cons hc, ← List.cons_append, ← List.append_assoc,
    rdropWhile_append_cons hd]
  simp

/-- A text that begins and ends with characters that stay is trimmed already. -/
theorem trimBy_eq_self {c d : Char} (hc : inClass c = false) (hd : inClass d = false)
    (cs : List Char) : trimBy inClass (c :: (cs ++ [d])) = c :: (cs ++ [d]) :=
  trimBy_around hc hd [] cs []

/-- A trimmed text and what stands behind a character that stays are trimmed behind it only. -/
theorem trimBy_append_cons {cs : List Char} (hne : cs ≠ []) (h : trimBy inClass cs = cs) {c : Char}
    (hc : inClass c = false) (after : List Char) :
    trimBy inClass (cs ++ c :: after) = cs ++ c :: after.rdropWhile inClass := by
  obtain ⟨d, rest, rfl⟩ := List.exists_cons_of_ne_nil hne
  rw [List.cons_append, trimBy_cons_of_neg (head_of_trimBy_eq_self h), rdropWhile_append_cons hc]
  rfl

end Trimming

/-! ## Lines -/

/-- No character of the text ends a line. -/
def OneLine (cs : List Char) : Prop := ∀ c ∈ cs, isLineEnd c = false

instance : DecidablePred OneLine := List.decidableBAll fun c => isLineEnd c = false

theorem OneLine.append {cs ds : List Char} (hcs : OneLine cs) (hds : OneLine ds) :
    OneLine (cs ++ ds) := by
  intro c hc
  exact (List.mem_append.mp hc).elim (hcs c) (hds c)

theorem OneLine.cons {c : Char} {cs : List Char} (hc : isLineEnd c = false) (hcs : OneLine cs) :
    OneLine (c :: cs) :=
  List.forall_mem_cons.mpr ⟨hc, hcs⟩

theorem OneLine.flatMap {α : Type} {items : List α} {f : α → List Char}
    (h : ∀ item ∈ items, OneLine (f item)) : OneLine (items.flatMap f) := by
  intro c hc
  obtain ⟨item, hitem, hmem⟩ := List.mem_flatMap.mp hc
  exact h item hitem c hmem

/-- The first line of a text goes up to the first line feed, if it holds no line end. -/
theorem lines_append {line : List Char} (h : OneLine line) (rest : List Char) :
    lines (line ++ '\n' :: rest) = line :: lines rest := by
  induction line with
  | nil =>
    have hend : isLineEnd '\n' = true := by decide
    rw [List.nil_append, lines, if_pos hend]
    simp
  | cons c line ih =>
    obtain ⟨hc, hline⟩ := List.forall_mem_cons.mp h
    have hreturn : c ≠ '\r' := by
      rintro rfl
      exact absurd hc (by decide)
    rw [List.cons_append, lines, if_neg (by simp [hc]), ih hline]
    exact fun _ hcr => absurd hcr hreturn

/-- **Lines that hold no line end are read back.** -/
theorem lines_flatMap {texts : List (List Char)} (h : ∀ line ∈ texts, OneLine line) :
    lines (texts.flatMap fun line => line ++ ['\n']) = texts := by
  induction texts with
  | nil => rfl
  | cons line rest ih =>
    obtain ⟨hline, hrest⟩ := List.forall_mem_cons.mp h
    rw [List.flatMap_cons, List.append_assoc, List.singleton_append, lines_append hline, ih hrest]

/-! ## Cutting -/

@[simp]
theorem dropWord?_append (word rest : List Char) : dropWord? word (word ++ rest) = some rest := by
  induction word with
  | nil => rfl
  | cons w word ih => simp [dropWord?, ih]

theorem eq_append_of_dropWord? {word cs rest : List Char} (h : dropWord? word cs = some rest) :
    cs = word ++ rest := by
  induction word generalizing cs with
  | nil => exact Option.some.inj h
  | cons w word ih =>
    cases cs with
    | nil => exact absurd h (by simp [dropWord?])
    | cons c cs =>
      rw [dropWord?] at h
      split at h
      case isTrue heq => rw [heq, ih h, List.cons_append]
      case isFalse => exact absurd h (by simp)

/-- A word is dropped exactly if the text begins with it. -/
theorem dropWord?_eq_none_iff {word cs : List Char} :
    dropWord? word cs = none ↔ ¬ word <+: cs := by
  constructor
  · rintro hnone ⟨rest, rfl⟩
    rw [dropWord?_append] at hnone
    cases hnone
  · intro hbegins
    by_contra hsome
    obtain ⟨rest, hrest⟩ := Option.ne_none_iff_exists'.mp hsome
    exact hbegins ⟨rest, (eq_append_of_dropWord? hrest).symm⟩

/-- A text is cut at a word exactly if the word occurs in it. -/
theorem cutAt?_eq_none_iff {word cs : List Char} : cutAt? word cs = none ↔ ¬ word <:+: cs := by
  induction cs with
  | nil => simp [cutAt?]
  | cons c rest ih =>
    rw [List.infix_cons_iff, not_or, ← dropWord?_eq_none_iff, ← ih, cutAt?]
    cases dropWord? word (c :: rest) <;> simp

/-- A word does not reach over a character that is not in it. -/
theorem infix_of_infix_append_cons {word before after : List Char} {c : Char} (hc : c ∉ word)
    (h : word <:+: before ++ c :: after) : word <:+: before ∨ word <:+: after := by
  obtain ⟨front, back, heq⟩ := h
  -- the occurrence ends in front of the character or reaches over its place
  rcases List.append_eq_append_iff.mp heq with ⟨more, rfl, -⟩ | ⟨more, hmore, hback⟩
  · exact .inl ⟨front, more, rfl⟩
  · -- the word ends behind the character, so it begins behind it, too
    cases more with
    | nil =>
      rw [List.append_nil] at hmore
      exact .inl ⟨front, [], by rw [List.append_nil, hmore]⟩
    | cons d more =>
      obtain ⟨rfl, rfl⟩ := List.cons.inj hback
      rcases List.append_eq_append_iff.mp hmore with ⟨gap, -, rfl⟩ | ⟨gap, -, hword⟩
      · exact absurd (by simp) hc
      · cases gap with
        | nil => exact absurd (by rw [← List.nil_append word, ← hword]; simp) hc
        | cons e gap =>
          obtain ⟨-, rfl⟩ := List.cons.inj hword
          exact .inr ⟨gap, back, rfl⟩

/-- A word does not begin among characters that are not in it. -/
theorem infix_of_infix_append {word front cs : List Char} (hword : word ≠ [])
    (hfront : ∀ c ∈ front, c ∉ word) (h : word <:+: front ++ cs) : word <:+: cs := by
  induction front with
  | nil => exact h
  | cons c front ih =>
    obtain ⟨hc, hfront⟩ := List.forall_mem_cons.mp hfront
    rw [List.cons_append, List.infix_cons_iff] at h
    refine h.elim (fun hbegins => ?_) (ih hfront)
    obtain ⟨w, word, rfl⟩ := List.exists_cons_of_ne_nil hword
    rw [List.cons_prefix_cons] at hbegins
    exact absurd (hbegins.1 ▸ List.mem_cons_self) hc

/-- Helper: a word less its last character ends before the word does. -/
private theorem prefix_append_dropLast (before word after : List Char) :
    before ++ word.dropLast <+: before ++ word ++ after := by
  rw [List.append_assoc, List.prefix_append_right_inj]
  exact (List.dropLast_prefix word).trans (List.prefix_append _ _)

/-- A text is cut at the first place where a word stands. -/
theorem cutAt?_append {word before : List Char} (hfirst : ¬ word <:+: before ++ word.dropLast)
    (after : List Char) : cutAt? word (before ++ word ++ after) = some (before, after) := by
  -- the search goes along what stands before the word, where the word may not begin
  induction before with
  | nil =>
    cases word with
    | nil => exact absurd List.nil_infix hfirst
    | cons w word =>
      rw [List.nil_append, List.cons_append, cutAt?, ← List.cons_append, dropWord?_append]
  | cons c before ih =>
    have hnone : dropWord? word (c :: before ++ word ++ after) = none := by
      rw [dropWord?_eq_none_iff]
      intro hbegins
      -- what begins with the word begins with it within so many characters
      have hlength : word.length ≤ (c :: before ++ word.dropLast).length := by
        simp only [List.length_cons, List.length_append, List.length_dropLast]
        omega
      exact hfirst (List.prefix_of_prefix_length_le hbegins
        (prefix_append_dropLast (c :: before) word after) hlength).isInfix
    rw [List.cons_append, List.infix_cons_iff, not_or] at hfirst
    rw [List.cons_append, List.cons_append] at hnone ⊢
    rw [cutAt?, hnone, ih hfirst.2]
    rfl

/-- **A text is cut where a word stands first**: the word is not in what stands before, not even
together with all but the last character of the word itself. -/
theorem cutAt?_eq_some_iff {word cs before after : List Char} (hword : word ≠ []) :
    cutAt? word cs = some (before, after)
      ↔ cs = before ++ word ++ after ∧ ¬ word <:+: before ++ word.dropLast := by
  constructor
  · intro h
    induction cs generalizing before with
    | nil => simp [cutAt?, hword] at h
    | cons c rest ih =>
      -- the word begins here, or is found later in the text
      rw [cutAt?] at h
      split at h
      case h_1 left hleft =>
        obtain ⟨rfl, rfl⟩ := Prod.mk.inj (Option.some.inj h)
        refine ⟨eq_append_of_dropWord? hleft, fun hin => ?_⟩
        have hlength := hin.length_le
        rw [List.nil_append, List.length_dropLast] at hlength
        have hpos := List.length_pos_iff.mpr hword
        omega
      case h_2 hnone =>
        obtain ⟨⟨front, back⟩, hcut, hparts⟩ := Option.map_eq_some_iff.mp h
        obtain ⟨rfl, rfl⟩ := Prod.mk.inj hparts
        obtain ⟨rfl, hfirst⟩ := ih hcut
        refine ⟨rfl, ?_⟩
        rw [List.cons_append, List.infix_cons_iff, not_or]
        exact ⟨fun hbegins => dropWord?_eq_none_iff.mp hnone
          (hbegins.trans (prefix_append_dropLast (c :: front) word back)), hfirst⟩
  · rintro ⟨rfl, hfirst⟩
    exact cutAt?_append hfirst after

/-- What stands behind a word anywhere in a text stands behind the place where the text is cut. -/
theorem suffix_of_cutAt? {word cs before after : List Char} (hword : word ≠ [])
    (h : cutAt? word cs = some (before, after)) {front rest : List Char}
    (hcs : cs = front ++ word ++ rest) : rest <:+ after := by
  obtain ⟨hcut, hfirst⟩ := (cutAt?_eq_some_iff hword).mp h
  refine List.suffix_of_suffix_length_le ⟨front ++ word, hcs.symm⟩
    ⟨before ++ word, hcut.symm⟩ ?_
  by_contra hlonger
  -- else the word would begin before the first place where it stands
  have hlength := congrArg List.length (hcut.symm.trans hcs)
  have hpos := List.length_pos_iff.mpr hword
  simp only [List.length_append] at hlength
  have hearly : front ++ word <+: before ++ word.dropLast := by
    refine List.prefix_of_prefix_length_le (hcs ▸ List.prefix_append _ _)
      (hcut ▸ prefix_append_dropLast before word after) ?_
    simp only [List.length_append, List.length_dropLast]
    omega
  exact hfirst ((List.suffix_append front word).isInfix.trans hearly.isInfix)

/-- A text is cut at the first place where a character stands. -/
theorem cutAt?_cons {c : Char} {before : List Char} (h : c ∉ before) (after : List Char) :
    cutAt? [c] (before ++ c :: after) = some (before, after) := by
  have hfirst : ¬ [c] <:+: before ++ [c].dropLast := by
    rw [List.dropLast_singleton, List.append_nil, List.singleton_infix_iff]
    exact h
  simpa using cutAt?_append hfirst after

/-! ## Joining -/

theorem joinWith_cons (separator piece : List Char) {pieces : List (List Char)} (h : pieces ≠ []) :
    joinWith separator (piece :: pieces) = piece ++ separator ++ joinWith separator pieces := by
  obtain ⟨next, more, rfl⟩ := List.exists_cons_of_ne_nil h
  rfl

end SheetRecall.Text
