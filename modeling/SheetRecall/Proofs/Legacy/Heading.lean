import Mathlib.Data.List.Infix
import SheetRecall.Proofs.Legacy.Lines

/-!
# Headings of Sentences

The heading of a sentence names a worksheet and a row.  The worksheet's name goes up to the first
place that reads as the end of a heading, so a name is read back exactly if it holds no such place
itself.

## Ends of headings
`EndsHeading` says in full what ends a heading: a comma, `row`, a number and a colon, in letters of
either case and with blanks between.  There is one comma in it, the first character, so an end that
begins inside a name and is not all in it would hold the comma behind the name too.

## Main statements
- `headingEnd?_eq_some_iff`: which texts are read as the end of a heading.
- `readHeading?_append`: the heading of a worksheet is read back.
-/

namespace SheetRecall.Legacy

open SheetRecall.Text

/-! ## Ends of headings -/

/-- The mark ends a heading with a row number. -/
def EndsHeading (mark number : List Char) : Prop :=
  ∃ gap word space trail, mark = ',' :: (gap ++ word ++ space ++ number ++ trail ++ [':'])
    ∧ Spells "row".toList word ∧ (∀ c ∈ gap ++ space ++ trail, isBlank c = true)
    ∧ space ≠ [] ∧ number ≠ [] ∧ ∀ c ∈ number, isDigit c = true

/-- The comma of an end is its first character only. -/
theorem EndsHeading.exists_cons {mark number : List Char} (h : EndsHeading mark number) :
    ∃ ending, mark = ',' :: ending ∧ ',' ∉ ending := by
  obtain ⟨gap, word, space, trail, rfl, hword, hblank, -, -, hdigits⟩ := h
  refine ⟨_, rfl, ?_⟩
  have hletters : ',' ∉ word := hword.notMem (by decide +kernel)
  have hnumber : ',' ∉ number := notMem_of_class hdigits isDigit_comma
  have hblanks : ',' ∉ gap ++ space ++ trail := notMem_of_class hblank isBlank_comma
  simp only [List.mem_append, not_or] at hblanks ⊢
  exact ⟨⟨⟨⟨⟨hblanks.1.1, hletters⟩, hblanks.1.2⟩, hnumber⟩, hblanks.2⟩, by decide⟩

/-- What is read as the end of a heading is one, and the body follows it. -/
theorem exists_of_headingEnd? {cs number body : List Char}
    (h : headingEnd? cs = some (number, body)) :
    ∃ mark rest, cs = mark ++ rest ∧ body = dropBlanks rest ∧ EndsHeading mark number := by
  unfold headingEnd? at h
  split at h
  case h_2 => cases h
  case h_1 ending =>
    -- the parts are found from the left: comma, blanks, word, blanks, digits, blanks, colon
    obtain ⟨spaced, hword, h⟩ := Option.bind_eq_some_iff.mp h
    obtain ⟨gap, hgap, hgapBlank⟩ := exists_dropBlanks ending
    obtain ⟨word, hdropped, hspells⟩ := spells_of_dropWord hword
    obtain ⟨space, hspace, hspaceBlank⟩ := exists_dropBlanks spaced
    dsimp only at h
    split at h
    case isTrue => cases h
    case isFalse hlength =>
      split at h
      case isTrue => cases h
      case isFalse hsome =>
        split at h
        case h_2 => cases h
        case h_1 rest hcolon =>
          -- every refusal is behind, so the parts are put together to the mark
          obtain ⟨rfl, rfl⟩ := Prod.mk.inj (Option.some.inj h)
          obtain ⟨trail, htrail, htrailBlank⟩ :=
            exists_dropBlanks ((dropBlanks spaced).dropWhile isDigit)
          refine ⟨',' :: (gap ++ word ++ space ++ (dropBlanks spaced).takeWhile isDigit ++ trail
            ++ [':']), rest, ?_, rfl, gap, word, space, trail, rfl, hspells, ?_, ?_, ?_, ?_⟩
          · -- the text is put together again from behind
            have hdigits : (dropBlanks spaced).takeWhile isDigit ++ (trail ++ ':' :: rest)
                = dropBlanks spaced := by
              rw [← hcolon, ← htrail, List.takeWhile_append_dropWhile]
            simp only [List.append_assoc, List.cons_append, List.nil_append, hdigits]
            rw [← hspace, ← hdropped, ← hgap]
          · -- the three gaps hold blanks only, and there is a blank and a digit where one must be
            intro c hc
            simp only [List.mem_append] at hc
            exact hc.elim (·.elim (hgapBlank c) (hspaceBlank c)) (htrailBlank c)
          · rintro rfl
            exact hlength (congrArg List.length hspace).symm
          · simpa using hsome
          · exact fun _ => List.mem_takeWhile_imp

/-- An end of a heading is read as one. -/
theorem EndsHeading.headingEnd? {mark number : List Char} (h : EndsHeading mark number)
    (rest : List Char) : headingEnd? (mark ++ rest) = some (number, dropBlanks rest) := by
  -- the reader goes over the parts of the mark in their order
  obtain ⟨gap, word, space, trail, rfl, hword, hblank, hspaceNe, hnumberNe, hdigits⟩ := h
  have hgap : ∀ c ∈ gap, isBlank c = true := fun c hc => hblank c (by simp [hc])
  have hspace : ∀ c ∈ space, isBlank c = true := fun c hc => hblank c (by simp [hc])
  have htrail : ∀ c ∈ trail, isBlank c = true := fun c hc => hblank c (by simp [hc])
  obtain ⟨d, more, rfl⟩ := List.exists_cons_of_ne_nil hnumberNe
  have hd : isBlank d = false := isBlank_of_isDigit (hdigits d List.mem_cons_self)
  have hrow : dropWordIgnoringCase "row".toList
      (dropBlanks (gap ++ (word ++ (space ++ (d :: more ++ (trail ++ ':' :: rest))))))
        = some (space ++ (d :: more ++ (trail ++ ':' :: rest))) := dropRow_append hgap hword _
  have hnumber : dropBlanks (space ++ (d :: more ++ (trail ++ ':' :: rest)))
      = d :: more ++ (trail ++ ':' :: rest) := dropBlanks_append hspace hd _
  have hlength : (d :: more ++ (trail ++ ':' :: rest)).length
      ≠ (space ++ (d :: more ++ (trail ++ ':' :: rest))).length := by
    rw [ne_eq, @List.length_append _ space]
    exact (Nat.lt_add_of_pos_left (List.length_pos_iff.mpr hspaceNe)).ne
  -- the digits end where the blanks or the colon begin
  obtain ⟨htake, hdrop⟩ := span_digits hdigits
    (isDigit_head?_append htrail (by simp : ∀ c ∈ (':' :: rest).head?, isDigit c = false))
  have hbody : dropBlanks (trail ++ ':' :: rest) = ':' :: rest :=
    dropBlanks_append htrail isBlank_colon rest
  have hcs : ',' :: (gap ++ word ++ space ++ d :: more ++ trail ++ [':']) ++ rest
      = ',' :: (gap ++ (word ++ (space ++ (d :: more ++ (trail ++ ':' :: rest))))) := by
    simp only [List.append_assoc, List.cons_append, List.nil_append]
  rw [hcs, Legacy.headingEnd?, hrow, Option.bind_eq_bind, Option.bind_some]
  dsimp only
  rw [hnumber, if_neg hlength, htake, hdrop, hbody]
  rfl

/-- **What is read as the end of a heading**, and what follows it. -/
theorem headingEnd?_eq_some_iff {cs number body : List Char} :
    headingEnd? cs = some (number, body)
      ↔ ∃ mark rest, cs = mark ++ rest ∧ body = dropBlanks rest ∧ EndsHeading mark number := by
  constructor
  · exact exists_of_headingEnd?
  · rintro ⟨mark, rest, rfl, rfl, hmark⟩
    exact hmark.headingEnd? rest

/-! ## Names of worksheets -/

/-- The name of a worksheet as it stands in a heading: trimmed, not empty, and without an end of a
heading in it. -/
structure IsWorksheet (name : List Char) : Prop where
  ne_nil : name ≠ []
  trimmed : trimChars name = name
  noEnd : ∀ mark number, EndsHeading mark number → ¬ mark <:+: name

/-- No end of a heading is in a text exactly if none is read anywhere in it. -/
theorem noEnd_iff {cs : List Char} :
    (∀ mark number, EndsHeading mark number → ¬ mark <:+: cs)
      ↔ ∀ part ∈ cs.tails, headingEnd? part = none := by
  simp only [List.mem_tails]
  constructor
  · intro h part hpart
    rw [Option.eq_none_iff_forall_ne_some]
    rintro ⟨number, body⟩ hread
    obtain ⟨mark, rest, rfl, -, hmark⟩ := headingEnd?_eq_some_iff.mp hread
    exact h mark number hmark ((List.prefix_append mark rest).isInfix.trans hpart.isInfix)
  · intro h mark number hmark hin
    obtain ⟨part, ⟨rest, rfl⟩, hpart⟩ := List.infix_iff_prefix_suffix.mp hin
    have hnone := h (mark ++ rest) hpart
    rw [hmark.headingEnd?] at hnone
    cases hnone

instance (name : List Char) : Decidable (IsWorksheet name) :=
  decidable_of_iff
    (name ≠ [] ∧ trimChars name = name ∧ ∀ part ∈ name.tails, headingEnd? part = none)
    ⟨fun h => ⟨h.1, h.2.1, noEnd_iff.mpr h.2.2⟩,
      fun h => ⟨h.ne_nil, h.trimmed, noEnd_iff.mp h.noEnd⟩⟩

/-! ## Headings -/

/-- The end of a heading is found behind a name that holds none. -/
theorem EndsHeading.findHeadingEnd? {mark number : List Char} (h : EndsHeading mark number)
    {name : List Char} (hname : ∀ mark number, EndsHeading mark number → ¬ mark <:+: name)
    (rest : List Char) :
    findHeadingEnd? (name ++ (mark ++ rest)) = some (name, number, dropBlanks rest) := by
  -- the search goes along the name, where no end of a heading can begin
  induction name with
  | nil =>
    obtain ⟨ending, rfl, -⟩ := h.exists_cons
    rw [List.nil_append, List.cons_append, Legacy.findHeadingEnd?, ← List.cons_append,
      h.headingEnd?]
  | cons c name ih =>
    have hnone : Legacy.headingEnd? (c :: (name ++ (mark ++ rest))) = none := by
      rw [Option.eq_none_iff_forall_ne_some]
      rintro ⟨other, body⟩ hread
      obtain ⟨early, more, heq, -, hearly⟩ := headingEnd?_eq_some_iff.mp hread
      rw [← List.cons_append] at heq
      rcases List.append_eq_append_iff.mp heq with ⟨beyond, rfl, hbeyond⟩ | ⟨later, hlater, -⟩
      · -- the end that begins in the name would go on behind it, over the comma there
        obtain ⟨ending, hending, hcomma⟩ := hearly.exists_cons
        obtain ⟨rfl, rfl⟩ := List.cons.inj hending
        obtain ⟨ending, rfl, -⟩ := h.exists_cons
        cases beyond with
        | nil =>
          rw [List.append_nil] at hearly
          exact hname _ other hearly (List.infix_refl _)
        | cons d beyond =>
          obtain ⟨rfl, -⟩ := List.cons.inj hbeyond
          exact hcomma (by simp)
      · exact hname early other hearly (hlater ▸ (List.prefix_append early later).isInfix)
    -- what is left of the name has no such mark either
    have hrest := ih fun mark number hmark hin =>
      hname mark number hmark (hin.trans (List.suffix_cons c name).isInfix)
    rw [List.cons_append, Legacy.findHeadingEnd?, hnone, hrest]
    rfl

/-- **The heading of a worksheet is read back**: its name, the number of the row, and the body. -/
theorem readHeading?_append {opening name mark number : List Char}
    (hopening : Spells sentenceOpening opening) (hname : IsWorksheet name)
    (hmark : EndsHeading mark number) (rest : List Char) :
    readHeading? (opening ++ ' ' :: (name ++ (mark ++ rest)))
      = some (name, number, dropBlanks rest) := by
  -- the first character is taken without a look, and the end is looked for behind it
  obtain ⟨c, later, rfl⟩ := List.exists_cons_of_ne_nil hname.ne_nil
  have hc : isBlank c = false := head_of_trimBy_eq_self hname.trimmed
  have hnamed : dropBlanks (' ' :: (c :: later ++ (mark ++ rest))) = c :: later ++ (mark ++ rest) :=
    @dropBlanks_append [' '] (List.forall_mem_singleton.mpr isBlank_space) c hc _
  have hfind := hmark.findHeadingEnd? (fun mark number hmark hin =>
    hname.noEnd mark number hmark (hin.trans (List.suffix_cons c later).isInfix)) rest
  have hblanks : (' ' :: (c :: later ++ (mark ++ rest))).length
      - (c :: later ++ (mark ++ rest)).length = 1 := Nat.add_sub_cancel_left _ 1
  rw [readHeading?, dropWord_of_spells hopening, Option.bind_eq_bind, Option.bind_some]
  dsimp only
  rw [hnamed, hblanks, if_neg (by decide), List.cons_append]
  dsimp only
  rw [hfind]

end SheetRecall.Legacy
