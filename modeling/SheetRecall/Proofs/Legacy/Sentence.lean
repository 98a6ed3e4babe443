import SheetRecall.Proofs.Legacy.Heading

/-!
# Sentences Are Read Back

A sentence names a worksheet and a row and then says what each column is.  Its parts are told from
one another by words and marks that the parts may almost hold themselves: a name ends at the first
`is` between blanks, and a value at the first full stop before a blank.

## What the parts may hold
- `IsWorksheet`: no end of a heading.
- `IsColumn`: neither a colon nor a line feed, and no `is` that the name could end at.
- `IsCellText`: no full stop before a blank.  Full stops inside words and at the end, line feeds and
  colons are fine, and so is nothing at all.

## Layers
- One column: the name up to its `is` (`nameUpToIs?_append`), the value up to its full stop
  (`cutValue_append`), and both (`pairHere?_clause`).
- The columns of a body, one after the other (`bodyPairs_clauses`), and the row that they make.
- The whole text, with the heading in front.

## Main statement
`readRow?_sentence`.
-/

namespace SheetRecall.Legacy

open SheetRecall.Text

/-! ## Columns and values in a sentence -/

/-- The name of a column as it stands in a sentence: it goes up to the `is` behind it, since there
is none in it that stands between blanks, or between a blank and its end. -/
structure IsColumn (name : List Char) : Prop extends IsKey name where
  noFeed : '\n' ∉ name
  noIs : ∀ b c, isBlank b = true → isBlank c = true → ¬ [b, 'i', 's', c] <:+: name
  noLastIs : ∀ b, isBlank b = true → ¬ [b, 'i', 's'] <:+ name

instance (name : List Char) : Decidable (IsColumn name) :=
  -- the characters of the name are gone through, and not all that there are
  letI (b : Char) : Decidable (∀ c ∈ name, isBlank b = true → isBlank c = true →
      ¬ [b, 'i', 's', c] <:+: name) := List.decidableBAll _ name
  letI : Decidable (∀ b ∈ name, ∀ c ∈ name, isBlank b = true → isBlank c = true →
      ¬ [b, 'i', 's', c] <:+: name) := List.decidableBAll _ name
  letI : Decidable (∀ b ∈ name, isBlank b = true → ¬ [b, 'i', 's'] <:+ name) :=
    List.decidableBAll _ name
  decidable_of_iff
    (IsKey name ∧ '\n' ∉ name
      ∧ (∀ b ∈ name, ∀ c ∈ name, isBlank b = true → isBlank c = true → ¬ [b, 'i', 's', c] <:+: name)
      ∧ ∀ b ∈ name, isBlank b = true → ¬ [b, 'i', 's'] <:+ name)
    ⟨fun ⟨hkey, hfeed, hinside, hlast⟩ =>
      { toIsKey := hkey
        noFeed := hfeed
        noIs := fun b c hb hc hin =>
          hinside b (hin.subset (by simp)) c (hin.subset (by simp)) hb hc hin
        noLastIs := fun b hb hin => hlast b (hin.subset (by simp)) hb hin },
      fun h => ⟨h.toIsKey, h.noFeed, fun b _ c _ => h.noIs b c, fun b _ => h.noLastIs b⟩⟩

/-- The text of a cell as it stands in a sentence: no full stop in it stands before a blank. -/
def IsCellText (value : List Char) : Prop := ∀ b, isBlank b = true → ¬ ['.', b] <:+: value

instance (value : List Char) : Decidable (IsCellText value) :=
  letI : Decidable (∀ b ∈ value, isBlank b = true → ¬ ['.', b] <:+: value) :=
    List.decidableBAll _ value
  decidable_of_iff (∀ b ∈ value, isBlank b = true → ¬ ['.', b] <:+: value)
    ⟨fun h b hb hin => h b (hin.subset (by simp)) hb hin, fun h b _ => h b⟩

theorem IsCellText.of_suffix {value part : List Char} (h : IsCellText value)
    (hpart : part <:+ value) : IsCellText part := by
  intro b hb hin
  exact h b hb (hin.trans hpart.isInfix)

/-! ## One column -/

theorem IsKey.exists_cons {key : List Char} (h : IsKey key) :
    ∃ c later, key = c :: later ∧ isBlank c = false := by
  obtain ⟨c, later, rfl⟩ := List.exists_cons_of_ne_nil h.ne_nil
  exact ⟨c, later, rfl, head_of_trimBy_eq_self h.trimmed⟩

theorem IsColumn.inColumnName {name : List Char} (h : IsColumn name) {c : Char} (hc : c ∈ name) :
    inColumnName c = true := by
  have hcolon : c ≠ ':' := fun heq => h.noColon (heq ▸ hc)
  have hfeed : c ≠ '\n' := fun heq => h.noFeed (heq ▸ hc)
  simp [Legacy.inColumnName, hcolon, hfeed]

/-- What a text goes on with, if it goes on with `is` between blanks. -/
theorem exists_of_afterIs? {cs value : List Char} (h : afterIs? cs = some value) :
    ∃ gap b c rest, cs = gap ++ [b] ++ 'i' :: 's' :: c :: rest
      ∧ (∀ d ∈ gap ++ [b], isBlank d = true) ∧ isBlank c = true := by
  -- blanks, the word itself and a blank behind it are asked for in this order
  unfold afterIs? at h
  split at h
  case h_2 => cases h
  case h_1 first tail =>
    split at h
    case isFalse => cases h
    case isTrue hfirst =>
      split at h
      case h_2 => cases h
      case h_1 c rest hdropped =>
        split at h
        case isFalse => cases h
        case isTrue hc =>
          obtain ⟨blanks, hcs, hblanks⟩ := exists_dropBlanks (first :: tail)
          rw [hdropped] at hcs
          -- the first character is a blank, so blanks were dropped
          obtain rfl | ⟨gap, b, rfl⟩ := List.eq_nil_or_concat blanks
          · obtain ⟨rfl, -⟩ := List.cons.inj hcs
            exact absurd hfirst (by decide)
          · rw [List.concat_eq_append] at hcs hblanks
            exact ⟨gap, b, c, rest, hcs, hblanks, hc⟩

/-- No `is` is read where a part of a column's name is still to come. -/
theorem IsColumn.afterIs?_eq_none {name : List Char} (h : IsColumn name) {part : List Char}
    (hpart : part <:+ name) (hne : part ≠ []) (rest : List Char) :
    afterIs? (part ++ ' ' :: 'i' :: 's' :: ' ' :: rest) = none := by
  rw [Option.eq_none_iff_forall_ne_some]
  intro value hread
  -- if the clause did read, its blanks and its word would overlap the name in one of two ways
  obtain ⟨gap, b, c, later, heq, hgap, hc⟩ := exists_of_afterIs? hread
  have hb : isBlank b = true := hgap b (by simp)
  rcases List.append_eq_append_iff.mp heq with ⟨beyond, hbeyond, -⟩ | ⟨beyond, rfl, hbeyond⟩
  · -- the part would be made of blanks, but the name ends with none
    obtain rfl | ⟨before, last, rfl⟩ := List.eq_nil_or_concat part
    · exact hne rfl
    · rw [List.concat_eq_append] at hpart hbeyond
      obtain ⟨front, hfront⟩ := hpart
      rw [← List.append_assoc] at hfront
      have hlast := last_of_trimBy_eq_self (hfront ▸ h.trimmed)
      rw [hgap last (by simp [hbeyond])] at hlast
      cases hlast
  · -- the part would go on with the `is`, over the blank behind it or up to there
    match beyond with
    | [] => cases hbeyond
    | [x] => cases hbeyond
    | [x, y] =>
      cases hbeyond
      rw [List.append_assoc] at hpart
      exact h.noLastIs b hb ((List.suffix_append gap [b, 'i', 's']).trans hpart)
    | x :: y :: z :: beyond =>
      cases hbeyond
      refine h.noIs b c hb hc (List.IsInfix.trans ?_ hpart.isInfix)
      exact ⟨gap, beyond, by simp⟩

/-- **A column's name goes up to the `is` behind it.** -/
theorem nameUpToIs?_append {name : List Char} (h : IsColumn name) {part : List Char}
    (hpart : part <:+ name) (rest : List Char) :
    nameUpToIs? (part ++ ' ' :: 'i' :: 's' :: ' ' :: rest) = some (part, dropBlanks rest) := by
  induction part with
  | nil => rfl
  | cons c part ih =>
    have hnone := h.afterIs?_eq_none hpart (List.cons_ne_nil c part) rest
    have hc : inColumnName c = true := h.inColumnName (hpart.subset List.mem_cons_self)
    have hrest := ih ((List.suffix_cons c part).trans hpart)
    rw [List.cons_append] at hnone ⊢
    rw [nameUpToIs?, hnone]
    dsimp only
    rw [if_pos hc, hrest]
    rfl

theorem IsColumn.columnName? {name : List Char} (h : IsColumn name) (rest : List Char) :
    columnName? (name ++ ' ' :: 'i' :: 's' :: ' ' :: rest) = some (name, dropBlanks rest) := by
  obtain ⟨c, later, rfl, -⟩ := h.exists_cons
  rw [List.cons_append, Legacy.columnName?, if_pos (h.inColumnName List.mem_cons_self),
    nameUpToIs?_append h (List.suffix_cons c later)]
  rfl

/-- All leading blanks are dropped first. -/
theorem exists_blankDrops (cs : List Char) : ∃ more, blankDrops cs = dropBlanks cs :: more := by
  induction cs with
  | nil => exact ⟨[], rfl⟩
  | cons c rest ih =>
    rw [blankDrops, dropBlanks, List.dropWhile_cons]
    split
    case isTrue =>
      obtain ⟨more, hmore⟩ := ih
      exact ⟨more ++ [c :: rest], congrArg (· ++ [c :: rest]) hmore⟩
    case isFalse => exact ⟨[], rfl⟩

/-- **A value goes up to the full stop behind it**, if a blank or nothing follows that. -/
theorem cutValue_append {value : List Char} (h : IsCellText value) {rest : List Char}
    (hrest : ∀ b ∈ rest.head?, isBlank b = true) :
    cutValue (value ++ '.' :: rest) = (value, rest) := by
  -- the value ends at the first full stop with a blank behind it, or with nothing
  induction value with
  | nil =>
    cases rest with
    | nil => rfl
    | cons b later => rw [List.nil_append, cutValue, if_pos (hrest b rfl)]
  | cons c value ih =>
    have hmore := ih (h.of_suffix (List.suffix_cons c value))
    rw [List.cons_append]
    by_cases hdot : c = '.'
    · subst hdot
      -- what follows a full stop of the value is no blank
      have hnext : ∀ d ∈ (value ++ '.' :: rest).head?, isBlank d = false := by
        cases value with
        | nil => exact fun d hd => Option.some.inj hd ▸ isBlank_stop
        | cons e value =>
          intro d hd
          obtain rfl : e = d := Option.some.inj hd
          by_contra hblank
          exact h e (Bool.not_eq_false _ ▸ hblank) ⟨[], value, rfl⟩
      cases hvalue : value ++ '.' :: rest with
      | nil => simp at hvalue
      | cons d later =>
        rw [hvalue] at hnext hmore
        rw [cutValue, if_neg (by simp [hnext d rfl]), hmore]
    · -- any other character belongs to the value
      rw [cutValue, hmore]
      · exact fun heq => absurd heq hdot
      · exact fun _ _ heq => absurd heq hdot

/-! ## Columns one after the other -/

/-- What a sentence says of a column. -/
def clause (pair : String × String) : List Char :=
  pair.1.toList ++ ' ' :: 'i' :: 's' :: ' ' :: (pair.2.toList ++ ['.'])

/-- What a sentence says of columns, with a blank in front of each. -/
def clauses (pairs : List (String × String)) : List Char :=
  pairs.flatMap fun pair => ' ' :: clause pair

/-- The column can stand in a sentence with its value. -/
def IsPair (pair : String × String) : Prop := IsColumn pair.1.toList ∧ IsCellText pair.2.toList

instance (pair : String × String) : Decidable (IsPair pair) :=
  inferInstanceAs (Decidable (IsColumn pair.1.toList ∧ IsCellText pair.2.toList))

/-- The column as the reader of a body has it, without the blanks in front of the value. -/
def readPair (pair : String × String) : List Char × List Char :=
  (pair.1.toList, dropBlanks pair.2.toList)

theorem clause_append (pair : String × String) (rest : List Char) :
    clause pair ++ rest
      = pair.1.toList ++ ' ' :: 'i' :: 's' :: ' ' :: (pair.2.toList ++ '.' :: rest) := by
  simp only [clause, List.append_assoc, List.cons_append, List.nil_append]

/-- Blanks in front of a column do not go into its name. -/
theorem dropBlanks_clause {pair : String × String} (h : IsColumn pair.1.toList) {gap : List Char}
    (hgap : ∀ c ∈ gap, isBlank c = true) (rest : List Char) :
    dropBlanks (gap ++ (clause pair ++ rest)) = clause pair ++ rest := by
  obtain ⟨c, later, hname, hc⟩ := h.exists_cons
  rw [clause_append, hname, List.cons_append]
  exact dropBlanks_append hgap hc _

/-- **A column and its value are read back**, behind any blanks and in front of the next. -/
theorem pairHere?_clause {pair : String × String} (h : IsPair pair) {gap : List Char}
    (hgap : ∀ c ∈ gap, isBlank c = true) {rest : List Char}
    (hrest : ∀ b ∈ rest.head?, isBlank b = true) :
    pairHere? (gap ++ (clause pair ++ rest))
      = some (pair.1.toList, dropBlanks pair.2.toList, rest) := by
  obtain ⟨hcolumn, hvalue⟩ := h
  obtain ⟨more, hmore⟩ := exists_blankDrops (gap ++ (clause pair ++ rest))
  -- blanks behind the `is` are taken from the value, which keeps its full stops
  have hcut : cutValue (dropBlanks pair.2.toList ++ '.' :: rest)
      = (dropBlanks pair.2.toList, rest) :=
    cutValue_append (hvalue.of_suffix (List.dropWhile_suffix isBlank)) hrest
  rw [pairHere?, hmore, List.findSome?_cons, dropBlanks_clause hcolumn hgap, clause_append,
    hcolumn.columnName?, dropBlanks_append_cons isBlank_stop, Option.bind_eq_bind, Option.bind_some]
  dsimp only
  rw [hcut]

/-- One step of the reader of a body takes one column with its value. -/
theorem bodyPairs_clause {pair : String × String} (h : IsPair pair) {gap : List Char}
    (hgap : ∀ c ∈ gap, isBlank c = true) {rest : List Char}
    (hrest : ∀ b ∈ rest.head?, isBlank b = true) (steps : Nat) :
    bodyPairs (steps + 1) (gap ++ (clause pair ++ rest))
      = readPair pair :: bodyPairs steps rest := by
  have hpair := pairHere?_clause h hgap hrest
  obtain ⟨c, later, hcs⟩ : ∃ c later, gap ++ (clause pair ++ rest) = c :: later :=
    List.exists_cons_of_ne_nil (by simp [clause])
  rw [hcs] at hpair ⊢
  rw [bodyPairs, hpair]
  rfl

theorem isBlank_head?_clauses (pairs : List (String × String)) :
    ∀ b ∈ (clauses pairs).head?, isBlank b = true := by
  cases pairs with
  | nil => exact nofun
  | cons pair rest => exact fun b hb => Option.some.inj hb ▸ isBlank_space

/-- **The columns of a body are read back** in order, if there are steps enough. -/
theorem bodyPairs_clauses {pairs : List (String × String)} (h : ∀ pair ∈ pairs, IsPair pair)
    {steps : Nat} (hsteps : (clauses pairs).length ≤ steps) :
    bodyPairs steps (clauses pairs) = pairs.map readPair := by
  induction pairs generalizing steps with
  | nil => cases steps <;> rfl
  | cons pair rest ih =>
    obtain ⟨hpair, hrest⟩ := List.forall_mem_cons.mp h
    have hcons : clauses (pair :: rest) = [' '] ++ (clause pair ++ clauses rest) := rfl
    rw [hcons] at hsteps ⊢
    simp only [List.length_append, List.length_singleton] at hsteps
    -- a column takes one step, and has more than one character
    obtain ⟨steps, rfl⟩ : ∃ n, steps = n + 1 := ⟨steps - 1, by omega⟩
    rw [bodyPairs_clause hpair (List.forall_mem_singleton.mpr isBlank_space)
      (isBlank_head?_clauses rest),
      ih hrest (by omega), List.map_cons]

/-- The body of a sentence begins with the name of its first column. -/
theorem bodyPairs_body {pair : String × String} {rest : List (String × String)}
    (h : ∀ p ∈ pair :: rest, IsPair p) :
    let body := dropBlanks (clauses (pair :: rest))
    bodyPairs body.length body = (pair :: rest).map readPair := by
  intro body
  obtain ⟨hpair, hrest⟩ := List.forall_mem_cons.mp h
  have hbody : body = clause pair ++ clauses rest :=
    @dropBlanks_clause pair hpair.1 [' '] (List.forall_mem_singleton.mpr isBlank_space)
      (clauses rest)
  have hlength : ∃ n, body.length = n + 1 ∧ (clauses rest).length ≤ n := by
    rw [hbody]
    -- one step for the first column leaves enough for the others
    refine ⟨(clause pair).length - 1 + (clauses rest).length, ?_, Nat.le_add_left _ _⟩
    simp only [clause, List.length_append, List.length_cons]
    omega
  obtain ⟨n, hn, hle⟩ := hlength
  rw [hn, hbody]
  -- the first clause is cut off, with the clauses of the others behind it
  have hfirst := @bodyPairs_clause pair hpair [] nofun _ (isBlank_head?_clauses rest) n
  rw [List.nil_append] at hfirst
  rw [hfirst, bodyPairs_clauses hrest hle, List.map_cons]

/-- The row that the columns of a body make: of values of one column the last one stands. -/
theorem dataOf_readPair {pairs : List (String × String)} (h : ∀ pair ∈ pairs, IsPair pair) :
    dataOf (pairs.map readPair)
      = Entries.ofPairs (pairs.map fun pair => (pair.1, sniff pair.2)) := by
  rw [dataOf, Entries.ofPairs, List.foldl_map, List.foldl_map]
  refine List.foldl_ext _ _ _ fun data pair hpair => ?_
  obtain ⟨hcolumn, -⟩ := h pair hpair
  have hname : pair.1.toList.isEmpty = false := by
    rw [Bool.eq_false_iff, ne_eq, List.isEmpty_iff]
    exact hcolumn.ne_nil
  have hsniff : sniff (String.ofList (dropBlanks pair.2.toList)) = sniff pair.2 := by
    apply sniff_congr
    rw [trim, trim, String.toList_ofList, trimChars, trimChars, dropBlanks, trimBy_dropWhile]
  simp only [readPair, hcolumn.trimmed, hname, hsniff, String.ofList_toList, Bool.false_eq_true,
    if_false]

/-! ## The whole text -/

/-- A row as a sentence. -/
def sentence (worksheet number : String) (pairs : List (String × String)) : String :=
  "Record from worksheet " ++ worksheet ++ ", row " ++ number ++ ": "
    ++ " ".intercalate (pairs.map fun pair => pair.1 ++ " is " ++ pair.2 ++ ".")

/-- The words that open a sentence. -/
def opening : List Char := "Record from worksheet".toList

/-- The end of a sentence's heading, with its row number. -/
def headingMark (number : String) : List Char := (", row " ++ number ++ ":").toList

/-- The columns in a sentence, behind the blank in front of the first one. -/
theorem cons_toList_intercalate (pair : String × String) (rest : List (String × String)) :
    ' ' :: (" ".intercalate
        ((pair :: rest).map fun pair => pair.1 ++ " is " ++ pair.2 ++ ".")).toList
      = clauses (pair :: rest) := by
  have hclause : ∀ pair : String × String,
      (pair.1 ++ " is " ++ pair.2 ++ ".").toList = clause pair := by
    intro pair
    have his : " is ".toList = [' ', 'i', 's', ' '] := by decide
    have hstop : ".".toList = ['.'] := by decide
    simp only [clause, String.toList_append, his, hstop, List.append_assoc, List.cons_append,
      List.nil_append]
  -- the texts are joined from the front, each with its blank
  induction rest generalizing pair with
  | nil => simp [clauses, hclause]
  | cons next rest ih =>
    have hblank : " ".toList = [' '] := by decide
    have hnext := ih next
    rw [List.map_cons] at hnext
    rw [List.map_cons, List.map_cons, String.intercalate_cons_cons, String.toList_append,
      String.toList_append, hclause, hblank, List.append_assoc, List.singleton_append, hnext]
    rfl

theorem sentence_toList (worksheet number : String) (pair : String × String)
    (rest : List (String × String)) :
    (sentence worksheet number (pair :: rest)).toList
      = opening ++ ' ' :: (worksheet.toList ++ (headingMark number ++ clauses (pair :: rest))) := by
  have hopening : "Record from worksheet ".toList = opening ++ [' '] := by decide +kernel
  have hcolon : ": ".toList = ":".toList ++ [' '] := by decide
  have hbody := cons_toList_intercalate pair rest
  unfold sentence headingMark
  -- what the columns say stays closed, since only what stands in front of it is put together here
  generalize clauses (pair :: rest) = body at hbody ⊢
  generalize " ".intercalate
    ((pair :: rest).map fun pair => pair.1 ++ " is " ++ pair.2 ++ ".") = text at hbody ⊢
  subst hbody
  simp only [String.toList_append, hopening, hcolon, List.append_assoc, List.cons_append,
    List.nil_append]

theorem endsHeading_headingMark {number : String} (hne : number ≠ "")
    (hdigits : ∀ c ∈ number.toList, c.isDigit = true) :
    EndsHeading (headingMark number) number.toList := by
  refine ⟨[' '], ['r', 'o', 'w'], [' '], [], ?_, by decide +kernel, by simp, by simp, ?_, ?_⟩
  · have hrow : ", row ".toList = ',' :: ([' '] ++ ['r', 'o', 'w'] ++ [' ']) := by decide
    have hcolon : ":".toList = [':'] := by decide
    rw [headingMark, String.toList_append, String.toList_append, hrow, hcolon]
    simp
  · simpa using hne
  · exact fun c hc => Decimal.isDigit_of_ascii (hdigits c hc)

/-- In lower case the front of a text does not depend on the rest, unless a capital sigma in it
looks ahead. -/
theorem exists_lowerAfter_append {cs : List Char} (h : 'Σ' ∉ cs) (before rest : List Char) :
    ∃ more, lowerAfter before (cs ++ rest) = cs.flatMap lowerChar ++ more := by
  induction cs generalizing before with
  | nil => exact ⟨_, rfl⟩
  | cons c cs ih =>
    rw [List.mem_cons, not_or] at h
    obtain ⟨more, hmore⟩ := ih h.2 (c :: before)
    refine ⟨more, ?_⟩
    rw [List.cons_append, lowerAfter, if_neg (Ne.symm h.1), hmore, List.flatMap_cons,
      List.append_assoc]

/-- A text that begins with the words of a sentence bears its mark. -/
theorem looksLikeSentence_of_opening {text : String} {rest : List Char}
    (h : text.toList = opening ++ rest) : looksLikeSentence text = true := by
  have hdrop : dropBlanks (opening ++ rest) = opening ++ rest := by
    have hfirst : opening = 'R' :: opening.tail := by decide +kernel
    rw [hfirst, List.cons_append]
    exact @dropBlanks_append [] nofun 'R' (by decide) _
  have hopening : opening.flatMap lowerChar = sentenceOpening := by decide +kernel
  obtain ⟨more, hmore⟩ := @exists_lowerAfter_append opening (by decide +kernel) [] rest
  rw [looksLikeSentence, h, hdrop, lowerChars, hmore, hopening, List.isPrefixOf_iff_prefix]
  exact List.prefix_append _ _

/-- A sentence begins with a letter and ends with a full stop. -/
theorem trimChars_sentence (worksheet number : String) {pairs : List (String × String)}
    (hpairs : pairs ≠ []) :
    trimChars (sentence worksheet number pairs).toList
      = (sentence worksheet number pairs).toList := by
  -- the last clause is the end of the text
  obtain ⟨before, hbefore⟩ : ∃ before, clauses pairs = before ++ ['.'] := by
    obtain rfl | ⟨init, last, rfl⟩ := List.eq_nil_or_concat pairs
    · exact absurd rfl hpairs
    · let name := last.1.toList ++ [' ', 'i', 's', ' ']
      refine ⟨clauses init ++ ' ' :: (name ++ last.2.toList), ?_⟩
      simp [clauses, clause, name]
  obtain ⟨pair, rest, rfl⟩ := List.exists_cons_of_ne_nil hpairs
  -- the first letter is no blank either
  have hfirst : opening = 'R' :: opening.tail := by decide +kernel
  have htext := sentence_toList worksheet number pair rest
  rw [hbefore, hfirst] at htext
  have hends : (sentence worksheet number (pair :: rest)).toList
      = 'R' :: ((opening.tail ++ ' ' :: (worksheet.toList ++ (headingMark number ++ before)))
        ++ ['.']) := by
    rw [htext]
    simp only [List.append_assoc, List.cons_append]
  rw [hends]
  exact trimBy_eq_self (by decide) (by decide) _

/-- **A sentence is read back**: the worksheet, the number of the row, and the columns with the
values that their texts stand for, in order, the last one standing for a column that is named
twice. -/
theorem readRow?_sentence {worksheet number : String} (hworksheet : IsWorksheet worksheet.toList)
    (hne : number ≠ "") (hdigits : ∀ c ∈ number.toList, c.isDigit = true)
    {pairs : List (String × String)} (hpairs : pairs ≠ []) (h : ∀ pair ∈ pairs, IsPair pair) :
    readRow? (sentence worksheet number pairs)
      = some ⟨Entries.ofPairs (pairs.map fun pair => (pair.1, sniff pair.2)),
          [(worksheetNameKey, .text worksheet), (rowNumberKey, .text number)]⟩ := by
  have htrimmed := trimChars_sentence worksheet number hpairs
  obtain ⟨pair, rest, rfl⟩ := List.exists_cons_of_ne_nil hpairs
  have htext := sentence_toList worksheet number pair rest
  have hheading := readHeading?_append (by decide +kernel : Spells sentenceOpening opening)
    hworksheet (endsHeading_headingMark hne hdigits) (clauses (pair :: rest))
  have hsource : sourceOf worksheet.toList number.toList
      = [(worksheetNameKey, .text worksheet), (rowNumberKey, .text number)] := by
    rw [sourceOf, hworksheet.trimmed, String.ofList_toList, String.ofList_toList]
  rw [readRow?, if_pos (looksLikeSentence_of_opening htext), readSentence?, htrimmed, htext,
    hheading, Option.bind_eq_bind, Option.bind_some]
  dsimp only
  rw [bodyPairs_body h, dataOf_readPair h, hsource]

/-- A sentence whose parts almost hold what tells them from one another: a comma and `row` in the
name of the worksheet, `is` in names, and values with full stops, a colon, a line feed, a blank in
front and nothing at all.  One column is named twice. -/
theorem readRow?_sentence_servers :
    let pairs := [("is on", "v2.5."), ("This", ""), ("Host", "a: b\nc.d"), ("is on", " true")]
    let text := "Record from worksheet Servers, row A:, row 4: is on is v2.5.. This is . "
      ++ "Host is a: b\nc.d. is on is  true."
    IsWorksheet "Servers, row A:".toList ∧ (∀ pair ∈ pairs, IsPair pair)
      ∧ sentence "Servers, row A:" "4" pairs = text
      ∧ readRow? text
        = some ⟨[("is on", .bool true), ("This", .null), ("Host", .text "a: b\nc.d")],
            [(worksheetNameKey, .text "Servers, row A:"), (rowNumberKey, .text "4")]⟩ := by
  intro pairs text
  have hworksheet : IsWorksheet "Servers, row A:".toList := by decide +kernel
  have hpairs : ∀ pair ∈ pairs, IsPair pair := by decide +kernel
  have htext : sentence "Servers, row A:" "4" pairs = text := by decide +kernel
  have hdigits : ∀ c ∈ "4".toList, c.isDigit = true := by simp
  have hread := readRow?_sentence hworksheet (by decide : "4" ≠ "") hdigits (by simp [pairs]) hpairs
  rw [htext] at hread
  exact ⟨hworksheet, hpairs, htext, hread⟩

end SheetRecall.Legacy
