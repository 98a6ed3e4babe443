import SheetRecall.Proofs.Legacy.Lines
import SheetRecall.Proofs.Value.Display
import SheetRecall.Workbook.Chunk

/-!
# The Text of a Row Is Read Back

The text of a chunk is a heading and a line for each column.  A reader of rows that were kept as
text finds the worksheet, the row and every column in it again, with the value that the text of the
column's value stands for.

## Layers
- The text is a list of lines, and it bears the marks of lines of keys and values.
- Each line of a column adds its own value and nothing else.
- The heading comes first, so the columns are read into a row that knows its place.

## Main statement
`readRow?_text`.
-/

namespace SheetRecall.Workbook

open SheetRecall.Text SheetRecall.Decimal

namespace Chunk

/-- The chunk can be told from its text: every part of it stays on its own line, and no column is
taken for another or for a heading. -/
structure Legible (c : Chunk) : Prop where
  placed : 1 ≤ c.rowNumber
  title : OneLine c.title.toList
  names : c.data.names.Nodup
  key : ∀ field ∈ c.data, Legacy.IsKey field.1.toList
  keyLine : ∀ field ∈ c.data, OneLine field.1.toList
  valueLine : ∀ field ∈ c.data, ∀ s, field.2 = .text s → OneLine s.toList
  noHeading : ∀ field ∈ c.data, ¬ Legacy.NamesRow (line field).toList

/-- The column as a reader of its text has it. -/
def sniffed (field : String × Value) : String × Value := (field.1, Legacy.sniff field.2.display)

/-! ## The lines of the text -/

theorem line_toList (field : String × Value) :
    (line field).toList = field.1.toList ++ ':' :: ' ' :: field.2.display.toList := by
  have hcolon : ": ".toList = [':', ' '] := by decide
  rw [line, String.toList_append, String.toList_append, hcolon, List.append_assoc]
  rfl

/-- The heading of a row that has a place in its sheet. -/
theorem heading_toList (title : String) (number : Nat) :
    ("Worksheet: " ++ title ++ ", Row: " ++ toString (number : Int)).toList
      = Legacy.heading title.toList number := by
  have hmark : "Worksheet: ".toList
      = ['W', 'o', 'r', 'k', 's', 'h', 'e', 'e', 't', ':'] ++ [' '] := by decide
  have hrow : ", Row: ".toList = ',' :: [' ', 'R', 'o', 'w', ':', ' '] := by decide
  have hnumber : (toString (number : Int)).toList = natDigits number := by
    rw [toString_natCast, String.toList_ofList]
  rw [String.toList_append, String.toList_append, String.toList_append, hmark, hrow, hnumber,
    Legacy.heading]
  simp only [List.append_assoc, List.cons_append, List.nil_append]

/-- Texts with a line feed between any two of them and one at the end. -/
theorem toList_intercalate_append (first : String) (rest : List String) :
    ("\n".intercalate (first :: rest) ++ "\n").toList
      = ((first :: rest).map String.toList).flatMap fun text => text ++ ['\n'] := by
  have hfeed : "\n".toList = ['\n'] := by decide
  induction rest generalizing first with
  | nil => simp [hfeed]
  | cons next rest ih =>
    rw [String.intercalate_cons_cons, String.append_assoc, String.toList_append, ih,
      String.toList_append, hfeed]
    simp

/-- The lines of a chunk's text. -/
theorem lines_text (c : Chunk) (h : c.Legible) {number : Nat} (hnumber : c.rowNumber = number) :
    lines c.text.toList
      = Legacy.heading c.title.toList number :: c.data.map fun field => (line field).toList := by
  -- neither the heading nor a field has a line end of its own, so the lines are just these
  have hheading : OneLine (Legacy.heading c.title.toList number) := by
    have hmark : OneLine (['W', 'o', 'r', 'k', 's', 'h', 'e', 'e', 't', ':'] ++ [' ']) := by decide
    have hrow : OneLine [' ', 'R', 'o', 'w', ':', ' '] := by decide
    have hend := (hrow.append (oneLine_natDigits number)).cons (by decide : isLineEnd ',' = false)
    have hwhole := (hmark.append h.title).append hend
    rwa [List.append_assoc _ [' ']] at hwhole
  have hfields : ∀ text ∈ c.data.map fun field => (line field).toList, OneLine text := by
    intro text htext
    obtain ⟨field, hfield, rfl⟩ := List.mem_map.mp htext
    have hvalue := (Value.oneLine_display (h.valueLine field hfield)).cons
      (by decide : isLineEnd ' ' = false)
    rw [line_toList]
    exact (h.keyLine field hfield).append (hvalue.cons (by decide))
  rw [text, toList_intercalate_append, List.map_cons, hnumber, heading_toList, List.map_map,
    lines_flatMap]
  · rfl
  · exact List.forall_mem_cons.mpr ⟨hheading, hfields⟩

/-- A chunk's text begins with its heading, so it is no sentence, and it has lines. -/
theorem looksLike_text (c : Chunk) :
    Legacy.looksLikeSentence c.text = false ∧ Legacy.looksLikeLines c.text = true := by
  -- the text begins with the mark of a worksheet and has a line behind it
  obtain ⟨rest, htext, hfeed⟩ : ∃ rest, c.text.toList
      = ['W', 'o', 'r', 'k', 's', 'h', 'e', 'e', 't', ':'] ++ rest ∧ '\n' ∈ rest := by
    have hmark : "Worksheet: ".toList
        = ['W', 'o', 'r', 'k', 's', 'h', 'e', 'e', 't', ':'] ++ [' '] := by decide
    rw [text, toList_intercalate_append, List.map_cons, List.flatMap_cons, String.toList_append,
      String.toList_append, String.toList_append, hmark]
    simp only [List.append_assoc]
    exact ⟨_, rfl, by simp⟩
  constructor
  · have hblank : isBlank 'W' = false := by decide
    have hlower : lowerChar 'W' = ['w'] := by decide
    have hother : Legacy.sentenceOpening = 'r' :: Legacy.sentenceOpening.tail := by decide
    rw [Legacy.looksLikeSentence, htext, List.cons_append, Legacy.dropBlanks,
      List.dropWhile_cons_of_neg (by simp [hblank]), lowerChars, lowerAfter, if_neg (by decide),
      hlower, hother]
    rfl
  · rw [Legacy.looksLikeLines, htext]
    simp [hfeed]

/-! ## The columns -/

/-- **The line of a column adds the column**, with the value that its text stands for. -/
theorem addLine_line (row : Legacy.Row) {field : String × Value}
    (hkey : Legacy.IsKey field.1.toList) (hline : ¬ Legacy.NamesRow (line field).toList) :
    Legacy.addLine row (trimChars (line field).toList)
      = { row with data := row.data.put field.1 (Legacy.sniff field.2.display) } := by
  have hvalue : Legacy.sniff (String.ofList (' ' :: field.2.display.toList))
      = Legacy.sniff field.2.display := by
    apply Legacy.sniff_congr
    rw [trim, trim, String.toList_ofList, trimChars, trimChars, trimBy_cons_of_pos isBlank_space]
  rw [line_toList] at hline ⊢
  rw [Legacy.addLine_field row hkey hline, hvalue, String.ofList_toList]

/-- The lines of columns add the columns one by one. -/
theorem foldl_addLine (row : Legacy.Row) {fields : Fields}
    (hkey : ∀ field ∈ fields, Legacy.IsKey field.1.toList)
    (hline : ∀ field ∈ fields, ¬ Legacy.NamesRow (line field).toList) :
    (fields.map fun field => trimChars (line field).toList).foldl Legacy.addLine row
      = { row with
          data := (fields.map sniffed).foldl (fun data field => data.put field.1 field.2)
            row.data } := by
  induction fields generalizing row with
  | nil => rfl
  | cons field rest ih =>
    obtain ⟨hfield, hrest⟩ := List.forall_mem_cons.mp hkey
    obtain ⟨hfirst, hlater⟩ := List.forall_mem_cons.mp hline
    rw [List.map_cons, List.foldl_cons, addLine_line row hfield hfirst, ih _ hrest hlater,
      List.map_cons, List.foldl_cons, sniffed]

/-! ## The whole text -/

/-- **The text of a row is read back**: the worksheet without the blanks around its name, the number
of the row, and every column in order with the value that its text stands for. -/
theorem readRow?_text (c : Chunk) (h : c.Legible) :
    Legacy.readRow? c.text
      = some ⟨c.data.map sniffed,
          [(Legacy.worksheetNameKey, .text (trim c.title)),
           (Legacy.rowNumberKey, .text (toString c.rowNumber))]⟩ := by
  -- the row number is positive, so it is spelled by digits
  obtain ⟨number, hnumber⟩ := Int.eq_ofNat_of_zero_le (Int.le_trans (by decide) h.placed)
  have hnames : Entries.names (c.data.map sniffed) = c.data.names := by
    simp only [Entries.names, List.map_map, Function.comp_def, sniffed]
  have hdata : (c.data.map sniffed).foldl (fun (data : Fields) field => data.put field.1 field.2) []
      = c.data.map sniffed := Entries.ofPairs_eq_self (hnames ▸ h.names)
  have hsource : Legacy.sourceOf c.title.toList (natDigits number)
      = [(Legacy.worksheetNameKey, .text (trim c.title)),
         (Legacy.rowNumberKey, .text (toString c.rowNumber))] := by
    rw [Legacy.sourceOf, hnumber, toString_natCast, trim]
  -- the heading is read first, into a row that is empty still
  have hread := foldl_addLine ⟨[], Legacy.sourceOf c.title.toList (natDigits number)⟩ h.key
    h.noHeading
  rw [hdata, hsource] at hread
  obtain ⟨hsentence, hlines⟩ := looksLike_text c
  have hmap : ((c.data.map fun field => (line field).toList).map trimChars)
      = c.data.map fun field => trimChars (line field).toList := List.map_map
  rw [Legacy.readRow?, hsentence, hlines, Legacy.readLines?, lines_text c h hnumber, List.map_cons,
    List.foldl_cons, Legacy.trimChars_heading, Legacy.addLine_heading, hsource, hmap]
  simp only [hread, List.isEmpty_cons, Bool.and_false, Bool.false_eq_true, ↓reduceIte]

/-- A row whose worksheet and values look like parts of lines themselves. -/
def markedRow : Chunk :=
  ⟨1, " A, Row: 5 ", 7, [("Name", .text "x: y, Row: 3"), ("Size", .int 12), ("Ok", .bool true)]⟩

theorem readRow?_text_markedRow :
    markedRow.Legible ∧ Legacy.readRow? markedRow.text
        = some ⟨[("Name", .text "x: y, Row: 3"), ("Size", .int 12), ("Ok", .bool true)],
            [(Legacy.worksheetNameKey, .text "A, Row: 5"), (Legacy.rowNumberKey, .text "7")]⟩ := by
  -- each column is legible, and one of the values looks like a heading
  have hvalue : OneLine "x: y, Row: 3".toList := by decide
  have hlegible : markedRow.Legible := {
    placed := by decide
    title := by decide
    names := by decide
    key := by decide +kernel
    keyLine := by decide
    valueLine := by
      simp only [markedRow, List.forall_mem_cons, Value.text.injEq, forall_eq', reduceCtorEq,
        false_implies, implies_true, List.not_mem_nil, and_true]
      exact hvalue
    noHeading := by decide +kernel }
  have htitle : trim markedRow.title = "A, Row: 5" := by decide
  have hnumber : toString markedRow.rowNumber = "7" := by decide
  have hdata : markedRow.data.map sniffed = markedRow.data := by rfl
  have hread := readRow?_text markedRow hlegible
  rw [htitle, hnumber, hdata] at hread
  exact ⟨hlegible, hread⟩

end Chunk

end SheetRecall.Workbook
