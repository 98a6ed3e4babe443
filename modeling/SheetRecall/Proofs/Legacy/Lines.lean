import SheetRecall.Legacy.Row
import SheetRecall.Proofs.Decimal.Digits
import SheetRecall.Proofs.Entries
import SheetRecall.Proofs.Legacy.Sniff
import SheetRecall.Proofs.Text.Lines

/-!
# Rows in Lines

What the reader of lines makes of one line: a line that names a worksheet and a row is told from a
line with a key and a value, whatever commas, colons and blanks the two hold.

## Lines that name a row
`NamesRow` says in full which lines do: `Worksheet:`, a name, a comma, `Row:` and a number, in
letters of either case and with blanks between.  Only the last comma of a line can be the one in
front of the row, so a name may hold the whole pattern itself.

## Main statements
- `readWorksheetLine?_eq_some_iff`, `namesRow_iff`: which lines are read as naming a row.
- `addLine_heading`, `addLine_field`: what a line of either kind adds to a row.
-/

namespace SheetRecall.Legacy

open SheetRecall.Text SheetRecall.Decimal

/-! ## Words, case ignored -/

/-- The text is the word, case ignored. -/
def Spells (word cs : List Char) : Prop := List.Forall₂ (fun w c => sameLetter w c = true) word cs

instance (word cs : List Char) : Decidable (Spells word cs) :=
  inferInstanceAs (Decidable (List.Forall₂ _ word cs))

/-- What is dropped is the word, case ignored. -/
theorem spells_of_dropWord {word cs rest : List Char}
    (h : dropWordIgnoringCase word cs = some rest) :
    ∃ mark, cs = mark ++ rest ∧ Spells word mark := by
  induction word generalizing cs with
  | nil => exact ⟨[], Option.some.inj h, .nil⟩
  | cons w word ih =>
    cases cs with
    | nil => cases h
    | cons c cs =>
      rw [dropWordIgnoringCase] at h
      split at h
      case isTrue hsame =>
        obtain ⟨mark, rfl, hmark⟩ := ih h
        exact ⟨c :: mark, rfl, .cons hsame hmark⟩
      case isFalse => cases h

/-- A character that is no letter of the word is not in a spelling of it. -/
theorem Spells.notMem {word mark : List Char} (h : Spells word mark) {c : Char}
    (hc : (word.any fun w => sameLetter w c) = false) : c ∉ mark := by
  induction h with
  | nil => exact List.not_mem_nil
  | cons hsame _ ih =>
    obtain ⟨hw, hword⟩ := Bool.or_eq_false_iff.mp hc
    rw [List.mem_cons, not_or]
    refine ⟨?_, ih hword⟩
    rintro rfl
    exact absurd (hsame.symm.trans hw) (by decide)

/-! ## Lines that name a row -/

/-- What follows the comma in a line that names a row: `Row:` and a number, with blanks around. -/
def EndsWithRow (cs number : List Char) : Prop :=
  ∃ gap mark space trail, cs = gap ++ mark ++ space ++ number ++ trail ∧ Spells "row:".toList mark
    ∧ (∀ c ∈ gap ++ space ++ trail, isBlank c = true) ∧ number ≠ [] ∧ ∀ c ∈ number, isDigit c = true

/-- The line names a worksheet and a row. -/
def NamesRow (line : List Char) : Prop :=
  ∃ mark name ending number, line = mark ++ name ++ ',' :: ending
    ∧ Spells "worksheet:".toList mark ∧ EndsWithRow ending number

/-- Blanks at the end of a line do not matter. -/
theorem NamesRow.append {line trail : List Char} (h : NamesRow line)
    (htrail : ∀ c ∈ trail, isBlank c = true) : NamesRow (line ++ trail) := by
  obtain ⟨mark, name, _, number, rfl, hmark, gap, rowMark, space, blanks, rfl, hrow, hblank,
    hsome⟩ := h
  refine ⟨mark, name, gap ++ rowMark ++ space ++ number ++ (blanks ++ trail), number, by simp,
    hmark, gap, rowMark, space, blanks ++ trail, rfl, hrow, ?_, hsome⟩
  intro c hc
  rw [← List.append_assoc, List.mem_append] at hc
  exact hc.elim (hblank c) (htrail c)

/-- The comma in front of the row is the last one of the line. -/
theorem EndsWithRow.comma_notMem {cs number : List Char} (h : EndsWithRow cs number) :
    ',' ∉ cs := by
  obtain ⟨gap, mark, space, trail, rfl, hmark, hblank, -, hdigits⟩ := h
  have hword : ',' ∉ mark := hmark.notMem (by decide +kernel)
  have hnumber : ',' ∉ number := notMem_of_class hdigits isDigit_comma
  have hblanks : ',' ∉ gap ++ space ++ trail := notMem_of_class hblank isBlank_comma
  simp only [List.mem_append, not_or] at hblanks ⊢
  exact ⟨⟨⟨⟨hblanks.1.1, hword⟩, hblanks.1.2⟩, hnumber⟩, hblanks.2⟩

/-- A spelling of the word is dropped. -/
theorem dropWord_of_spells {word mark : List Char} (h : Spells word mark) (rest : List Char) :
    dropWordIgnoringCase word (mark ++ rest) = some rest := by
  induction h with
  | nil => rfl
  | cons hsame _ ih => rw [List.cons_append, dropWordIgnoringCase, if_pos hsame, ih]

theorem exists_dropBlanks (cs : List Char) :
    ∃ blanks, cs = blanks ++ dropBlanks cs ∧ ∀ c ∈ blanks, isBlank c = true :=
  ⟨cs.takeWhile isBlank, List.takeWhile_append_dropWhile.symm, fun _ => List.mem_takeWhile_imp⟩

/-- What is read as the end of the line is one. -/
theorem endsWithRow_of_worksheetLineEnd? {cs number : List Char}
    (h : worksheetLineEnd? cs = some number) : ∃ ending, cs = ',' :: ending
      ∧ EndsWithRow ending number := by
  unfold worksheetLineEnd? at h
  split at h
  case h_2 => cases h
  case h_1 ending =>
    refine ⟨ending, rfl, ?_⟩
    -- blanks, the word, blanks and digits are taken off in this order
    obtain ⟨rest, hword, h⟩ := Option.bind_eq_some_iff.mp h
    obtain ⟨gap, hgap, hgapBlank⟩ := exists_dropBlanks ending
    obtain ⟨mark, hmark, hspells⟩ := spells_of_dropWord hword
    obtain ⟨space, hspace, hspaceBlank⟩ := exists_dropBlanks rest
    dsimp only at h
    split at h
    case isTrue => cases h
    case isFalse hsome =>
      split at h
      case isFalse => cases h
      case isTrue hempty =>
        obtain rfl := Option.some.inj h
        -- after the digits there is nothing but blanks
        have htrail : ∀ c ∈ (dropBlanks rest).dropWhile isDigit, isBlank c = true :=
          List.dropWhile_eq_nil_iff.mp (List.isEmpty_iff.mp hempty)
        refine ⟨gap, mark, space, (dropBlanks rest).dropWhile isDigit, ?_, hspells, ?_,
          by simpa using hsome, fun _ => List.mem_takeWhile_imp⟩
        · rw [List.append_assoc _ _ ((dropBlanks rest).dropWhile isDigit),
            List.takeWhile_append_dropWhile, List.append_assoc, ← hspace, List.append_assoc,
            ← hmark, ← hgap]
        · intro c hc
          simp only [List.mem_append] at hc
          exact hc.elim (·.elim (hgapBlank c) (hspaceBlank c)) (htrail c)

theorem exists_of_findWorksheetLineEnd? {cs name number : List Char}
    (h : findWorksheetLineEnd? cs = some (name, number)) :
    ∃ ending, cs = name ++ ',' :: ending ∧ EndsWithRow ending number := by
  induction cs generalizing name with
  | nil => cases h
  -- the mark that counts is the first one, and it may begin at this character
  | cons c cs ih =>
    rw [findWorksheetLineEnd?] at h
    split at h
    case h_1 read hend =>
      obtain ⟨rfl, rfl⟩ := Prod.mk.inj (Option.some.inj h)
      exact endsWithRow_of_worksheetLineEnd? hend
    case h_2 =>
      obtain ⟨⟨later, read⟩, hlater, heq⟩ := Option.map_eq_some_iff.mp h
      obtain ⟨rfl, rfl⟩ := Prod.mk.inj heq
      obtain ⟨ending, rfl, hending⟩ := ih hlater
      exact ⟨ending, rfl, hending⟩

/-- A digit of any script is no blank. -/
theorem isBlank_of_isDigit {c : Char} (h : isDigit c = true) : isBlank c = false := by
  have hapart : ∀ start ∈ digitZeros, ∀ range ∈ blankRanges,
      start + 10 ≤ range.1 ∨ range.2 < start := by decide
  obtain ⟨value, hvalue⟩ := Option.isSome_iff_exists.mp h
  obtain ⟨start, hstart, -⟩ := Option.map_eq_some_iff.mp hvalue
  have hbounds := List.find?_some hstart
  simp only [Bool.and_eq_true, decide_eq_true_eq] at hbounds
  rw [Bool.eq_false_iff, ne_eq, isBlank, CodeRanges.has, List.any_eq_true]
  rintro ⟨range, hrange, hin⟩
  simp only [Bool.and_eq_true, decide_eq_true_eq] at hin
  have := hapart start (List.mem_of_find?_eq_some hstart) range hrange
  omega

/-- A letter that is no blank in either case is none in a spelling. -/
theorem isBlank_of_sameLetter {w c : Char}
    (hw : ∀ range ∈ blankRanges, ∀ d < range.2 + 1 - range.1,
      sameLetter w (Char.ofNat (range.1 + d)) = false)
    (h : sameLetter w c = true) : isBlank c = false := by
  rw [Bool.eq_false_iff, ne_eq, isBlank, CodeRanges.has, List.any_eq_true]
  rintro ⟨range, hrange, hin⟩
  simp only [Bool.and_eq_true, decide_eq_true_eq] at hin
  have hapart := hw range hrange (c.toNat - range.1) (by omega)
  rw [Nat.add_sub_cancel' hin.1, Char.ofNat_toNat, h] at hapart
  cases hapart

theorem dropBlanks_append_cons {c : Char} (h : isBlank c = false) (cs rest : List Char) :
    dropBlanks (cs ++ c :: rest) = dropBlanks cs ++ c :: rest :=
  dropWhile_append_cons h cs rest

/-- What is dropped does not go into a text that begins with no blank. -/
theorem dropBlanks_append {blanks : List Char} (hblanks : ∀ c ∈ blanks, isBlank c = true)
    {c : Char} (hc : isBlank c = false) (rest : List Char) :
    dropBlanks (blanks ++ c :: rest) = c :: rest := by
  rw [dropBlanks_append_cons hc, dropBlanks, List.dropWhile_eq_nil_iff.mpr hblanks,
    List.nil_append]

/-- A word that begins with an R is dropped behind blanks. -/
theorem dropRow_append {word mark gap : List Char} (hgap : ∀ c ∈ gap, isBlank c = true)
    (hmark : Spells ('r' :: word) mark) (rest : List Char) :
    dropWordIgnoringCase ('r' :: word) (dropBlanks (gap ++ (mark ++ rest))) = some rest := by
  cases hmark with
  | @cons _ c _ mark hsame hrest =>
    have hc : isBlank c = false := isBlank_of_sameLetter (by decide +kernel) hsame
    rw [List.cons_append, dropBlanks_append hgap hc]
    exact dropWord_of_spells (.cons hsame hrest) rest

/-- Digits end where a text goes on that begins with none. -/
theorem span_digits {number after : List Char} (hnumber : ∀ c ∈ number, isDigit c = true)
    (hafter : ∀ c ∈ after.head?, isDigit c = false) :
    (number ++ after).takeWhile isDigit = number ∧ (number ++ after).dropWhile isDigit = after := by
  rw [List.takeWhile_append_of_pos hnumber, List.dropWhile_append_of_pos hnumber]
  cases after with
  | nil => exact ⟨List.append_nil number, rfl⟩
  | cons c rest =>
    have hc : ¬ isDigit c = true := by simp [hafter c rfl]
    rw [List.takeWhile_cons_of_neg hc, List.dropWhile_cons_of_neg hc, List.append_nil]
    exact ⟨rfl, rfl⟩

/-- What blanks and a text without a digit in front begin with is no digit. -/
theorem isDigit_head?_append {blanks : List Char} (hblanks : ∀ c ∈ blanks, isBlank c = true)
    {after : List Char} (hafter : ∀ c ∈ after.head?, isDigit c = false) :
    ∀ c ∈ (blanks ++ after).head?, isDigit c = false := by
  cases blanks with
  | nil => exact hafter
  | cons b rest =>
    intro c hc
    obtain rfl : b = c := Option.some.inj hc
    by_contra hdigit
    rw [Bool.not_eq_false] at hdigit
    exact absurd ((isBlank_of_isDigit hdigit).symm.trans (hblanks b List.mem_cons_self)) (by decide)

/-- The end of a line that names a row is read as one. -/
theorem EndsWithRow.worksheetLineEnd? {ending number : List Char} (h : EndsWithRow ending number) :
    worksheetLineEnd? (',' :: ending) = some number := by
  -- the parts of the mark are found again one by one
  obtain ⟨gap, mark, space, trail, rfl, hmark, hblank, hne, hdigits⟩ := h
  have hgap : ∀ c ∈ gap, isBlank c = true := fun c hc => hblank c (by simp [hc])
  have hspace : ∀ c ∈ space, isBlank c = true := fun c hc => hblank c (by simp [hc])
  have htrail : ∀ c ∈ trail, isBlank c = true := fun c hc => hblank c (by simp [hc])
  have hword : dropWordIgnoringCase "row:".toList
      (dropBlanks (gap ++ mark ++ space ++ number ++ trail)) = some (space ++ number ++ trail) := by
    simp only [List.append_assoc]
    exact dropRow_append hgap hmark _
  have hnumber : dropBlanks (space ++ number ++ trail) = number ++ trail := by
    obtain ⟨d, more, rfl⟩ := List.exists_cons_of_ne_nil hne
    rw [List.append_assoc]
    exact dropBlanks_append hspace (isBlank_of_isDigit (hdigits d List.mem_cons_self)) _
  -- the digits end where the blanks begin
  obtain ⟨htake, hdrop⟩ : (number ++ trail).takeWhile isDigit = number
      ∧ (number ++ trail).dropWhile isDigit = trail := by
    have hhead := @isDigit_head?_append trail htrail [] nofun
    rw [List.append_nil] at hhead
    exact span_digits hdigits hhead
  have hend : number.isEmpty = false := by simp [hne]
  have hrest : dropBlanks trail = [] := List.dropWhile_eq_nil_iff.mpr htrail
  rw [Legacy.worksheetLineEnd?, hword, Option.bind_eq_bind, Option.bind_some]
  dsimp only
  rw [hnumber, htake, hdrop, hend, hrest]
  rfl

/-- The row is found behind the last comma, so the name goes up to there. -/
theorem EndsWithRow.findWorksheetLineEnd? {ending number : List Char}
    (h : EndsWithRow ending number) (name : List Char) :
    findWorksheetLineEnd? (name ++ ',' :: ending) = some (name, number) := by
  induction name with
  | nil => rw [List.nil_append, Legacy.findWorksheetLineEnd?, h.worksheetLineEnd?]
  | cons c name ih =>
    have hnone : Legacy.worksheetLineEnd? (c :: (name ++ ',' :: ending)) = none := by
      rw [Option.eq_none_iff_forall_ne_some]
      intro read hread
      -- there would be a comma behind the one in front of the row
      obtain ⟨later, heq, hlater⟩ := endsWithRow_of_worksheetLineEnd? hread
      obtain ⟨rfl, rfl⟩ := List.cons.inj heq
      exact hlater.comma_notMem (by simp)
    rw [List.cons_append, Legacy.findWorksheetLineEnd?, hnone, ih]
    rfl

/-- **What is read on a line that names a worksheet and a row**: the number behind the last comma,
and the name up to there, whatever it holds. -/
theorem readWorksheetLine?_eq_some_iff {line name number : List Char} :
    readWorksheetLine? line = some (name, number) ↔
      ∃ mark title ending, line = mark ++ title ++ ',' :: ending ∧ name = dropBlanks title
        ∧ Spells "worksheet:".toList mark ∧ EndsWithRow ending number := by
  constructor
  · intro h
    -- the mark is read first, and blanks behind it do not belong to the name
    obtain ⟨rest, hword, hfind⟩ := Option.bind_eq_some_iff.mp h
    obtain ⟨mark, hline, hmark⟩ := spells_of_dropWord hword
    obtain ⟨blanks, hrest, hblanks⟩ := exists_dropBlanks rest
    obtain ⟨ending, hending, hrow⟩ := exists_of_findWorksheetLineEnd? hfind
    refine ⟨mark, blanks ++ name, ending, ?_, ?_, hmark, hrow⟩
    · rw [hline, hrest, hending]
      simp
    · have htitle := dropBlanks_append_cons isBlank_comma (blanks ++ name) ending
      rw [List.append_assoc, ← hending, ← hrest, hending] at htitle
      exact List.append_cancel_right htitle
  · rintro ⟨mark, title, ending, rfl, rfl, hmark, hrow⟩
    rw [readWorksheetLine?, List.append_assoc, dropWord_of_spells hmark, Option.bind_eq_bind,
      Option.bind_some, dropBlanks_append_cons isBlank_comma, hrow.findWorksheetLineEnd?]

/-- A line is read as naming a worksheet and a row exactly if it does so. -/
theorem namesRow_iff {line : List Char} : NamesRow line ↔ readWorksheetLine? line ≠ none := by
  constructor
  · rintro ⟨mark, title, ending, number, hline, hmark, hrow⟩ hnone
    have hread := readWorksheetLine?_eq_some_iff.mpr ⟨mark, title, ending, hline, rfl, hmark, hrow⟩
    rw [hread] at hnone
    cases hnone
  · intro hne
    obtain ⟨⟨name, number⟩, hread⟩ := Option.ne_none_iff_exists'.mp hne
    obtain ⟨mark, title, ending, hline, -, hmark, hrow⟩ := readWorksheetLine?_eq_some_iff.mp hread
    exact ⟨mark, title, ending, number, hline, hmark, hrow⟩

instance (line : List Char) : Decidable (NamesRow line) := decidable_of_iff' _ namesRow_iff

/-! ## Headings -/

/-- The line that names a worksheet and a row. -/
def heading (title : List Char) (number : Nat) : List Char :=
  ['W', 'o', 'r', 'k', 's', 'h', 'e', 'e', 't', ':'] ++ ' ' :: title
    ++ ',' :: ([' ', 'R', 'o', 'w', ':', ' '] ++ natDigits number)

/-- **The heading names its worksheet and its row**, whatever the worksheet's name holds. -/
theorem readWorksheetLine?_heading (title : List Char) (number : Nat) :
    readWorksheetLine? (heading title number) = some (dropBlanks title, natDigits number) := by
  have hrow : EndsWithRow ([' ', 'R', 'o', 'w', ':', ' '] ++ natDigits number) (natDigits number) :=
    ⟨[' '], ['R', 'o', 'w', ':'], [' '], [], by simp, by decide +kernel, by simp,
      natDigits_ne_nil number, fun _ => isDigit_natDigits⟩
  have hname : dropBlanks title = dropBlanks (' ' :: title) := by
    rw [dropBlanks, dropBlanks, List.dropWhile_cons_of_pos isBlank_space]
  exact readWorksheetLine?_eq_some_iff.mpr ⟨_, _, _, rfl, hname, by decide +kernel, hrow⟩

/-- A heading begins with a letter and ends with a digit. -/
theorem trimChars_heading (title : List Char) (number : Nat) :
    trimChars (heading title number) = heading title number := by
  -- the heading begins with a letter and ends with a digit, so there is nothing to trim
  have hlast : (natDigits number).rdropWhile isBlank = natDigits number := by
    rw [List.rdropWhile_eq_self_iff]
    intro hne
    simp [isBlank_of_isDigit (isDigit_natDigits (List.getLast_mem hne))]
  obtain ⟨c, rest, hdigits⟩ : ∃ c rest, natDigits number = c :: rest :=
    List.exists_cons_of_ne_nil (natDigits_ne_nil number)
  have hc : isBlank c = false :=
    isBlank_of_isDigit (isDigit_natDigits (hdigits ▸ List.mem_cons_self))
  have hbefore (before : List Char) :
      (before ++ natDigits number).rdropWhile isBlank = before ++ natDigits number := by
    rw [hdigits] at hlast ⊢
    rw [rdropWhile_append_cons hc]
    exact congrArg (before ++ ·) ((rdropWhile_append_cons hc [] rest).symm.trans hlast)
  have hrest := hbefore (['o', 'r', 'k', 's', 'h', 'e', 'e', 't', ':'] ++ ' ' :: title
    ++ ',' :: [' ', 'R', 'o', 'w', ':', ' '])
  rw [List.append_assoc] at hrest
  exact (trimBy_cons_of_neg (by decide : isBlank 'W' = false) _).trans (congrArg ('W' :: ·) hrest)

/-- **A heading says where the row stood.** -/
theorem addLine_heading (title : List Char) (number : Nat) :
    addLine ⟨[], []⟩ (heading title number) = ⟨[], sourceOf title (natDigits number)⟩ := by
  have htitle : sourceOf (dropBlanks title) (natDigits number)
      = sourceOf title (natDigits number) := by
    rw [sourceOf, sourceOf, trimChars, trimChars, dropBlanks, trimBy_dropWhile]
  rw [addLine, readWorksheetLine?_heading]
  dsimp only
  rw [htitle]
  rfl

/-! ## Keys and values -/

/-- A key as it stands in a line: trimmed, without a colon, and not empty. -/
structure IsKey (key : List Char) : Prop where
  ne_nil : key ≠ []
  trimmed : trimChars key = key
  noColon : ':' ∉ key

instance (key : List Char) : Decidable (IsKey key) :=
  decidable_of_iff (key ≠ [] ∧ trimChars key = key ∧ ':' ∉ key)
    ⟨fun h => ⟨h.1, h.2.1, h.2.2⟩, fun h => ⟨h.ne_nil, h.trimmed, h.noColon⟩⟩

theorem trimChars_field {key : List Char} (h : IsKey key) (value : List Char) :
    trimChars (key ++ ':' :: value) = key ++ ':' :: value.rdropWhile isBlank :=
  trimBy_append_cons h.ne_nil h.trimmed isBlank_colon value

/-- **A line with a key and a value sets the value of the key**, unless it names a row. -/
theorem addLine_field (row : Row) {key : List Char} (h : IsKey key) {value : List Char}
    (hline : ¬ NamesRow (key ++ ':' :: value)) :
    addLine row (trimChars (key ++ ':' :: value))
      = { row with
          data := row.data.put (String.ofList key) (sniff (String.ofList value)) } := by
  rw [trimChars_field h]
  -- a field cut short would name a row only if the whole field did
  have hnone : readWorksheetLine? (key ++ ':' :: value.rdropWhile isBlank) = none := by
    rw [Option.eq_none_iff_forall_ne_some]
    rintro ⟨name, number⟩ hread
    obtain ⟨trail, hvalue, htrail⟩ := @exists_rdropWhile_append isBlank value
    refine hline ?_
    have hnamed := namesRow_iff.mpr (Option.ne_none_iff_exists'.mpr ⟨_, hread⟩)
    have hwhole := hnamed.append htrail
    rwa [List.append_assoc, List.cons_append, ← hvalue] at hwhole
  have hne : key.isEmpty = false := by
    rw [Bool.eq_false_iff, ne_eq, List.isEmpty_iff]
    exact h.ne_nil
  have hsniff : sniff (String.ofList (value.rdropWhile isBlank)) = sniff (String.ofList value) := by
    apply sniff_congr
    rw [trim, trim, String.toList_ofList, String.toList_ofList, trimChars, trimChars,
      trimBy_rdropWhile]
  rw [addLine, hnone]
  simp only [cutAt?_cons h.noColon, h.trimmed, hne, Bool.false_eq_true, if_false, hsniff]

end SheetRecall.Legacy
