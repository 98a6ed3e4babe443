import Mathlib.Data.List.Chain
import SheetRecall.Column.Name
import SheetRecall.Proofs.Text.Lines

/-!
# Clean Headers

A header is cleaned in three passes: characters of no word become low lines, runs of low lines
become one, and those at the ends are dropped.  None of the passes touches the words of a header,
that is its longest runs of letters and numbers.  What the passes leave between the words is one
low line, so a clean name is made of its words and of nothing else, and everything that is said of
clean headers follows from that.

## Layers
- `words_eq_singleton`, `words_append_cons_of_gap`, `word_induction`: texts are split into words at
  gaps.
- `words_map_lowLined`, `words_squeeze`, `words_trimBy`: each pass keeps the words.
- `isClean_cleanChars`: after the passes no low line is left over.
- `IsClean.joinWith_words`: a clean name is its words, joined by low lines.

## Main statements
- `clean_eq_clean_iff`: which headers get one name.
- `clean_normalizes`: all that is said of clean headers.
-/

namespace SheetRecall.Column

open SheetRecall.Text

/-! ## Words -/

/-- A letter or a number: a word character other than the low line. -/
def isLetterOrNumber (c : Char) : Bool := isWord c && c ≠ '_'

/-- The words of a text: its longest runs of letters and numbers, in their order. -/
def words (cs : List Char) : List (List Char) :=
  (cs.splitOnP fun c => !isLetterOrNumber c).filter fun word => word ≠ []

@[simp]
theorem words_nil : words [] = [] := rfl

/-- A text of letters and numbers is one word. -/
theorem words_eq_singleton {word : List Char} (hne : word ≠ [])
    (h : ∀ c ∈ word, isLetterOrNumber c = true) : words word = [word] := by
  rw [words, List.splitOnP_eq_singleton fun c hc => by simp [h c hc]]
  simp [hne]

/-- **Texts are split into words at gaps.** -/
theorem words_append_cons_of_gap {gap : Char} (h : isLetterOrNumber gap = false)
    (before after : List Char) :
    words (before ++ gap :: after) = words before ++ words after := by
  rw [words, List.splitOnP_append_cons before after (by simp [h]), List.filter_append]
  rfl

theorem words_cons_of_gap {gap : Char} (h : isLetterOrNumber gap = false) (after : List Char) :
    words (gap :: after) = words after :=
  words_append_cons_of_gap h [] after

/-- Gaps in front of a text do not matter to its words. -/
theorem words_gaps_append {lead : List Char} (h : ∀ c ∈ lead, isLetterOrNumber c = false)
    (cs : List Char) : words (lead ++ cs) = words cs := by
  induction lead with
  | nil => rfl
  | cons gap more ih =>
    obtain ⟨hgap, hmore⟩ := List.forall_mem_cons.mp h
    rw [List.cons_append, words_cons_of_gap hgap, ih hmore]

/-- Gaps at the end of a text do not matter to its words. -/
theorem words_append_gaps {trail : List Char} (h : ∀ c ∈ trail, isLetterOrNumber c = false)
    (cs : List Char) : words (cs ++ trail) = words cs := by
  cases trail with
  | nil => rw [List.append_nil]
  | cons gap more =>
    obtain ⟨hgap, hmore⟩ := List.forall_mem_cons.mp h
    have hnone : words more = [] := by simpa using words_gaps_append hmore []
    rw [words_append_cons_of_gap hgap, hnone, List.append_nil]

/-- Induction on the words of a text: either there is no gap in it, or its first gap stands behind
letters and numbers, if any. -/
@[elab_as_elim]
theorem word_induction {motive : List Char → Prop}
    (word : ∀ run, (∀ c ∈ run, isLetterOrNumber c = true) → motive run)
    (gap : ∀ run g rest, (∀ c ∈ run, isLetterOrNumber c = true) → isLetterOrNumber g = false →
      motive rest → motive (run ++ g :: rest))
    (cs : List Char) : motive cs := by
  -- what has been read since the last gap is the beginning of a word
  suffices hread : ∀ read, (∀ c ∈ read, isLetterOrNumber c = true) → motive (read ++ cs) from
    hread [] (by simp)
  induction cs with
  | nil =>
    intro read hread
    rw [List.append_nil]
    exact word read hread
  | cons c rest ih =>
    intro read hread
    cases hc : isLetterOrNumber c with
    | true =>
      -- a word goes on: the character joins what was read
      have hmore : ∀ d ∈ read ++ [c], isLetterOrNumber d = true := by
        intro d hd
        rcases List.mem_append.mp hd with hd | hd
        · exact hread d hd
        · exact List.mem_singleton.mp hd ▸ hc
      simpa using ih (read ++ [c]) hmore
    | false => exact gap read c rest hread hc (ih [] (by simp))

/-- The words hold the letters and numbers of the text, in their order. -/
theorem flatten_words (cs : List Char) : (words cs).flatten = cs.filter isLetterOrNumber := by
  have hrun : ∀ run : List Char, (∀ c ∈ run, isLetterOrNumber c = true) →
      (words run).flatten = run.filter isLetterOrNumber := by
    intro run h
    rcases eq_or_ne run [] with rfl | hne
    · rfl
    · rw [words_eq_singleton hne h, List.flatten_singleton, List.filter_eq_self.mpr h]
  induction cs using word_induction with
  | word run h => exact hrun run h
  | gap run g rest h hg ih =>
    rw [words_append_cons_of_gap hg, List.flatten_append, hrun run h, ih, List.filter_append,
      List.filter_cons_of_neg (by simp [hg])]

/-! ## Clean names -/

/-- A clean name has word characters only, and low lines between them only: none stands at either
end or beside another. -/
structure IsClean (cs : List Char) : Prop where
  word : ∀ c ∈ cs, isWord c = true
  apart : cs.IsChain fun c d => ¬ (c = '_' ∧ d = '_')
  head_ne : cs.head? ≠ some '_'
  last_ne : cs.getLast? ≠ some '_'

theorem gap_low : isLetterOrNumber '_' = false := by decide

/-- The only gaps in a clean name are low lines. -/
theorem eq_low_of_gap {c : Char} (hword : isWord c = true) (hgap : isLetterOrNumber c = false) :
    c = '_' := by
  simpa [isLetterOrNumber, hword] using hgap

/-- Around a low line of a clean name there are two parts of it, and the one behind it is clean. -/
theorem IsClean.around_low {before after : List Char} (h : IsClean (before ++ '_' :: after)) :
    before ≠ [] ∧ after ≠ [] ∧ IsClean after := by
  -- a clean name has no two low lines side by side and none at either end
  obtain ⟨-, hafter, -⟩ := List.isChain_append.mp h.apart
  obtain ⟨hbeside, hapart⟩ := List.isChain_cons.mp hafter
  have hne : after ≠ [] := by
    rintro rfl
    exact h.last_ne (by simp)
  refine ⟨?_, hne, ?_⟩
  · rintro rfl
    exact h.head_ne rfl
  · exact {
      word := fun c hc => h.word c (by simp [hc])
      apart := hapart
      head_ne := fun hhead => hbeside '_' hhead ⟨rfl, rfl⟩
      last_ne := fun hlast =>
        h.last_ne (by simp [List.getLast?_append, List.getLast?_cons, hlast]) }

/-- **A clean name is its words, joined by low lines.** -/
theorem IsClean.joinWith_words {cs : List Char} (h : IsClean cs) :
    joinWith ['_'] (words cs) = cs := by
  induction cs using word_induction with
  -- a single word, or none
  | word run hrun =>
    rcases eq_or_ne run [] with rfl | hne
    · rfl
    · rw [words_eq_singleton hne hrun]
      rfl
  | gap run g rest hrun hg ih =>
    -- in a clean name a gap can only be a low line, and it has something on both sides
    obtain rfl := eq_low_of_gap (h.word g (by simp)) hg
    obtain ⟨hne, hrest, hclean⟩ := h.around_low
    -- the part behind the low line is not empty, so it has words to be joined
    have hwords : words rest ≠ [] := by
      intro hnone
      have hjoined := ih hclean
      rw [hnone] at hjoined
      exact hrest hjoined.symm
    rw [words_append_cons_of_gap gap_low, words_eq_singleton hne hrun, List.singleton_append,
      joinWith_cons _ _ hwords, ih hclean, List.append_assoc, List.singleton_append]

/-- Clean names with the same words are the same. -/
theorem IsClean.eq_of_words_eq {cs ds : List Char} (hcs : IsClean cs) (hds : IsClean ds)
    (h : words cs = words ds) : cs = ds := by
  rw [← hcs.joinWith_words, h, hds.joinWith_words]

/-! ## The three passes -/

/-- The character, or the low line that stands for it in a name. -/
def lowLined (c : Char) : Char := if isWord c then c else '_'

theorem cleanChars_eq (cs : List Char) :
    cleanChars cs = trimBy (· = '_') (squeeze (cs.map lowLined)) := rfl

theorem isWord_lowLined (c : Char) : isWord (lowLined c) = true := by
  unfold lowLined
  split
  case isTrue h => exact h
  case isFalse => decide

theorem lowLined_eq_self {c : Char} (h : isLetterOrNumber c = true) : lowLined c = c := by
  simp only [isLetterOrNumber, Bool.and_eq_true] at h
  rw [lowLined, if_pos h.1]

theorem lowLined_of_gap {c : Char} (h : isLetterOrNumber c = false) : lowLined c = '_' := by
  unfold lowLined
  split
  case isTrue hword => exact eq_low_of_gap hword h
  case isFalse => rfl

/-- Low lines for other characters keep the words. -/
theorem words_map_lowLined (cs : List Char) : words (cs.map lowLined) = words cs := by
  have hrun : ∀ run : List Char, (∀ c ∈ run, isLetterOrNumber c = true) →
      run.map lowLined = run := by
    intro run h
    exact (List.map_congr_left fun c hc => lowLined_eq_self (h c hc)).trans (List.map_id run)
  induction cs using word_induction with
  | word run h => rw [hrun run h]
  | gap run g rest h hg ih =>
    rw [List.map_append, List.map_cons, hrun run h, lowLined_of_gap hg,
      words_append_cons_of_gap gap_low, words_append_cons_of_gap hg, ih]

/-- A low line goes if another one follows it, and every other character stays. -/
theorem squeeze_cons (c : Char) (rest : List Char) :
    squeeze (c :: rest)
      = if c = '_' ∧ rest.head? = some '_' then squeeze rest else c :: squeeze rest := by
  cases rest with
  | nil => simp [squeeze]
  | cons d more => simp [squeeze]

/-- Squeezing low lines keeps the words, whatever text stands before them. -/
theorem words_append_squeeze (before cs : List Char) :
    words (before ++ squeeze cs) = words (before ++ cs) := by
  induction cs generalizing before with
  | nil => rfl
  | cons c rest ih =>
    rw [squeeze_cons]
    split
    case isTrue hlow =>
      obtain ⟨rfl, hnext⟩ := hlow
      obtain ⟨more, rfl⟩ := List.head?_eq_some_iff.mp hnext
      rw [ih, words_append_cons_of_gap gap_low, words_append_cons_of_gap gap_low,
        words_cons_of_gap gap_low]
    case isFalse =>
      -- a character that stays goes to the text before, where it may end a word or go on with it
      simpa using ih (before ++ [c])

theorem words_squeeze (cs : List Char) : words (squeeze cs) = words cs :=
  words_append_squeeze [] cs

/-- A squeezed text begins like the text. -/
theorem head?_squeeze (cs : List Char) : (squeeze cs).head? = cs.head? := by
  induction cs with
  | nil => rfl
  | cons c rest ih =>
    rw [squeeze_cons]
    split
    case isTrue hlow => rw [ih, hlow.2, hlow.1, List.head?_cons]
    case isFalse => rfl

/-- In a squeezed text no low line stands beside another. -/
theorem isChain_squeeze (cs : List Char) :
    (squeeze cs).IsChain fun c d => ¬ (c = '_' ∧ d = '_') := by
  induction cs with
  | nil => exact .nil
  | cons c rest ih =>
    rw [squeeze_cons]
    split
    case isTrue => exact ih
    case isFalse hlow =>
      rw [List.isChain_cons, head?_squeeze]
      refine ⟨fun d hd hboth => hlow ⟨hboth.1, ?_⟩, ih⟩
      rw [← hboth.2]
      exact hd

theorem squeeze_sublist (cs : List Char) : (squeeze cs).Sublist cs := by
  induction cs with
  | nil => exact .slnil
  | cons c rest ih =>
    rw [squeeze_cons]
    split
    case isTrue => exact ih.cons c
    case isFalse => exact ih.cons_cons c

/-- Dropping low lines at the ends keeps the words. -/
theorem words_trimBy (cs : List Char) : words (trimBy (· = '_') cs) = words cs := by
  -- low lines are gaps, so those cut off at the ends held no word
  have hgap : ∀ c : Char, decide (c = '_') = true → isLetterOrNumber c = false := by
    intro c hc
    rw [of_decide_eq_true hc]
    exact gap_low
  have hlead : ∀ c ∈ cs.takeWhile (· = '_'), isLetterOrNumber c = false :=
    fun c hc => hgap c (List.all_eq_true.mp List.all_takeWhile c hc)
  obtain ⟨trail, hcut, htrail⟩ := exists_rdropWhile_append (cs.dropWhile (· = '_'))
  calc words (trimBy (· = '_') cs)
      = words (trimBy (· = '_') cs ++ trail) :=
        (words_append_gaps (fun c hc => hgap c (htrail c hc)) _).symm
    _ = words (cs.dropWhile (· = '_')) := by rw [trimBy_eq_rdropWhile, ← hcut]
    _ = words (cs.takeWhile (· = '_') ++ cs.dropWhile (· = '_')) :=
        (words_gaps_append hlead _).symm
    _ = words cs := by rw [List.takeWhile_append_dropWhile]

/-! ## Clean headers -/

/-- **Cleaning keeps the words of a header.** -/
theorem words_cleanChars (cs : List Char) : words (cleanChars cs) = words cs := by
  rw [cleanChars_eq, words_trimBy, words_squeeze, words_map_lowLined]

/-- **A clean header is a clean name.** -/
theorem isClean_cleanChars (cs : List Char) : IsClean (cleanChars cs) := by
  have hpart : cleanChars cs <:+: squeeze (cs.map lowLined) := infix_trimBy _
  have htrimmed : trimBy (· = '_') (cleanChars cs) = cleanChars cs := trimBy_trimBy _
  have hapart : (cleanChars cs).IsChain fun c d => ¬ (c = '_' ∧ d = '_') :=
    List.IsChain.infix (isChain_squeeze _) hpart
  refine ⟨fun c hc => ?_, hapart, fun hhead => ?_, fun hlast => ?_⟩
  · -- each pass keeps what the passes before it have settled
    obtain ⟨d, -, rfl⟩ := List.mem_map.mp ((squeeze_sublist _).subset (hpart.subset hc))
    exact isWord_lowLined d
  · -- an end that is a low line would have been trimmed
    obtain ⟨rest, hcons⟩ := List.head?_eq_some_iff.mp hhead
    rw [hcons] at htrimmed
    exact absurd (head_of_trimBy_eq_self htrimmed) (by decide)
  · obtain ⟨front, hconcat⟩ := List.getLast?_eq_some_iff.mp hlast
    rw [hconcat] at htrimmed
    exact absurd (last_of_trimBy_eq_self htrimmed) (by decide)

/-- The clean form of a header is its words, joined by low lines. -/
theorem cleanChars_eq_joinWith (cs : List Char) : cleanChars cs = joinWith ['_'] (words cs) := by
  rw [← words_cleanChars, (isClean_cleanChars cs).joinWith_words]

example : clean "Server Name (FQDN)" = "Server_Name_FQDN" := by decide +kernel

/-- A header that is clean already is kept, and no other one. -/
theorem cleanChars_eq_self_iff (cs : List Char) : cleanChars cs = cs ↔ IsClean cs := by
  constructor
  · intro h
    rw [← h]
    exact isClean_cleanChars cs
  · intro h
    exact (isClean_cleanChars cs).eq_of_words_eq h (words_cleanChars cs)

theorem toList_clean (header : String) : (clean header).toList = cleanChars header.toList :=
  String.toList_ofList

theorem isClean_clean (header : String) : IsClean (clean header).toList := by
  rw [toList_clean]
  exact isClean_cleanChars header.toList

theorem clean_eq_self_iff (header : String) : clean header = header ↔ IsClean header.toList := by
  rw [← String.toList_inj, toList_clean, cleanChars_eq_self_iff]

/-- **Two headers get one name exactly if they have the same words.** -/
theorem clean_eq_clean_iff (header other : String) :
    clean header = clean other ↔ words header.toList = words other.toList := by
  rw [← String.toList_inj, toList_clean, toList_clean]
  constructor
  · intro h
    rw [← words_cleanChars header.toList, h, words_cleanChars]
  · intro h
    rw [cleanChars_eq_joinWith, h, ← cleanChars_eq_joinWith]

/-- **Cleaning headers is a projection onto the clean names that keeps the words.**  The names that
it gives are the clean ones, which are the headers that it keeps as they are; and a header and its
clean form have the same words in the same order, so no letter or number is lost or moved. -/
theorem clean_normalizes (header : String) :
    IsClean (clean header).toList
      ∧ (clean header = header ↔ IsClean header.toList)
      ∧ ((∃ source, clean source = header) ↔ IsClean header.toList)
      ∧ clean (clean header) = clean header
      ∧ words (clean header).toList = words header.toList
      ∧ (clean header).toList.filter isLetterOrNumber
        = header.toList.filter isLetterOrNumber := by
  have hwords : words (clean header).toList = words header.toList := by
    rw [toList_clean, words_cleanChars]
  refine ⟨isClean_clean header, clean_eq_self_iff header, ⟨?_, ?_⟩,
    (clean_eq_self_iff (clean header)).mpr (isClean_clean header), hwords, ?_⟩
  · rintro ⟨source, rfl⟩
    exact isClean_clean source
  · intro h
    exact ⟨header, (clean_eq_self_iff header).mpr h⟩
  · rw [← flatten_words, hwords, flatten_words]

end SheetRecall.Column
