import SheetRecall.Legacy.Sniff
import SheetRecall.Text.Case

/-!
# Rows kept as text

Two layouts in which a worksheet row was once kept as readable text.  A sentence names the
worksheet and the row and then says what each column is:

    Record from worksheet Servers, row 4: Name is web-01. Environment is Production.

The other layout has the worksheet and the row on one line and a column on each further line:

    Worksheet: Servers, Row: 4
    Name: web-01

A text belongs to the first layout whose mark it bears; if it does not parse there, it is no row.
-/

namespace SheetRecall.Legacy

open SheetRecall.Text

/-- The values of a row and where the row stood. -/
structure Row where
  data : Fields
  source : Fields

/-- The provenance key of the worksheet's name. -/
def worksheetNameKey : String := "worksheet_name"

/-- The provenance key of the row's number. -/
def rowNumberKey : String := "row_number"

/-- The provenance of a row. -/
def sourceOf (worksheet rowNumber : List Char) : Fields :=
  [(worksheetNameKey, .text (String.ofList (trimChars worksheet))),
   (rowNumberKey, .text (String.ofList rowNumber))]

/-- Drops the blanks in front. -/
def dropBlanks (cs : List Char) : List Char := cs.dropWhile isBlank

/-! ## Sentences -/

/-- The words that open a sentence, in lower case. -/
def sentenceOpening : List Char := "record from worksheet".toList

/-- The end of a sentence's heading: `, row N:`; the answer is the number and the body. -/
def headingEnd? (cs : List Char) : Option (List Char × List Char) :=
  match cs with
  | ',' :: rest => do
    let rest ← dropWordIgnoringCase "row".toList (dropBlanks rest)
    let digitsOn := dropBlanks rest
    if digitsOn.length = rest.length then none
    else
      let number := digitsOn.takeWhile isDigit
      if number.isEmpty then none
      else
        match dropBlanks (digitsOn.dropWhile isDigit) with
        | ':' :: body => some (number, dropBlanks body)
        | _ => none
  | _ => none

/-- The worksheet's name up to the first end of the heading, with the number and the body. -/
def findHeadingEnd? : List Char → Option (List Char × List Char × List Char)
  | [] => none
  | c :: rest =>
    match headingEnd? (c :: rest) with
    | some (number, body) => some ([], number, body)
    | none => (findHeadingEnd? rest).map fun (name, more) => (c :: name, more)

/-- A sentence's heading: the worksheet, the row number and the body.  The worksheet's name has at
least one character; it is a blank one if the heading ends where the name should start. -/
def readHeading? (cs : List Char) : Option (List Char × List Char × List Char) := do
  let rest ← dropWordIgnoringCase sentenceOpening cs
  let named := dropBlanks rest
  let blanks := rest.length - named.length
  if blanks = 0 then none
  else
    match named with
    | [] => none
    | c :: later =>
      match findHeadingEnd? later with
      | some (name, number, body) => some (c :: name, number, body)
      | none =>
        if blanks = 1 then none
        else (headingEnd? named).map fun (number, body) => ([' '], number, body)

/-- The text goes on with `is` between blanks; the answer is what follows them. -/
def afterIs? (cs : List Char) : Option (List Char) :=
  match cs with
  | c :: _ =>
    if isBlank c then
      match dropBlanks cs with
      | 'i' :: 's' :: b :: rest => if isBlank b then some (dropBlanks rest) else none
      | _ => none
    else none
  | [] => none

/-- A column's name holds neither a colon nor a line feed. -/
def inColumnName (c : Char) : Bool := c ≠ ':' && c ≠ '\n'

/-- The rest of a column's name up to the first `is`, and what follows that. -/
def nameUpToIs? : List Char → Option (List Char × List Char)
  | [] => none
  | c :: rest =>
    match afterIs? (c :: rest) with
    | some value => some ([], value)
    | none =>
      if inColumnName c then (nameUpToIs? rest).map fun (name, value) => (c :: name, value)
      else none

/-- A column's name of at least one character, and what follows its `is`. -/
def columnName? : List Char → Option (List Char × List Char)
  | [] => none
  | c :: rest =>
    if inColumnName c then (nameUpToIs? rest).map fun (name, value) => (c :: name, value)
    else none

/-- The text without its leading blanks, then with one of them left, and so on. -/
def blankDrops : List Char → List (List Char)
  | [] => [[]]
  | c :: rest => if isBlank c then blankDrops rest ++ [c :: rest] else [c :: rest]

/-- A value ends at a full stop before a blank, or at the end of the text. -/
def cutValue : List Char → List Char × List Char
  | [] => ([], [])
  | '.' :: [] => ([], [])
  | '.' :: c :: rest =>
    if isBlank c then ([], c :: rest)
    else
      let (value, left) := cutValue (c :: rest)
      ('.' :: value, left)
  | c :: rest =>
    let (value, left) := cutValue rest
    (c :: value, left)

/-- A column and its value at the front of the text, with what follows them. -/
def pairHere? (cs : List Char) : Option (List Char × List Char × List Char) := do
  let (name, rest) ← (blankDrops cs).findSome? columnName?
  let (value, left) := cutValue rest
  some (name, value, left)

/-- The columns and values of a body, from left to right; what belongs to no pair is skipped.
Each step uses up a character, so the length of the body bounds the steps. -/
def bodyPairs : Nat → List Char → List (List Char × List Char)
  | 0, _ => []
  | _, [] => []
  | steps + 1, c :: rest =>
    match pairHere? (c :: rest) with
    | some (name, value, left) => (name, value) :: bodyPairs steps left
    | none => bodyPairs steps rest

/-- Puts the value of each named column into the row. -/
def dataOf (pairs : List (List Char × List Char)) : Fields :=
  pairs.foldl
    (fun data pair =>
      let name := trimChars pair.1
      if name.isEmpty then data
      else data.put (String.ofList name) (sniff (String.ofList pair.2)))
    []

/-- Reads a sentence. -/
def readSentence? (text : String) : Option Row := do
  let (worksheet, number, body) ← readHeading? (trimChars text.toList)
  some ⟨dataOf (bodyPairs body.length body), sourceOf worksheet number⟩

/-! ## Lines of keys and values -/

/-- The end of a worksheet line: `, Row: N` up to the end of the line. -/
def worksheetLineEnd? (cs : List Char) : Option (List Char) :=
  match cs with
  | ',' :: rest => do
    let rest ← dropWordIgnoringCase "row:".toList (dropBlanks rest)
    let digitsOn := dropBlanks rest
    let number := digitsOn.takeWhile isDigit
    if number.isEmpty then none
    else if (dropBlanks (digitsOn.dropWhile isDigit)).isEmpty then some number
    else none
  | _ => none

/-- The worksheet's name up to the end of the line's mark, and the row number. -/
def findWorksheetLineEnd? : List Char → Option (List Char × List Char)
  | [] => none
  | c :: rest =>
    match worksheetLineEnd? (c :: rest) with
    | some number => some ([], number)
    | none => (findWorksheetLineEnd? rest).map fun (name, number) => (c :: name, number)

/-- The line that names the worksheet and the row. -/
def readWorksheetLine? (line : List Char) : Option (List Char × List Char) := do
  let rest ← dropWordIgnoringCase "worksheet:".toList line
  findWorksheetLineEnd? (dropBlanks rest)

/-- Adds what one trimmed line says. -/
def addLine (row : Row) (line : List Char) : Row :=
  match readWorksheetLine? line with
  | some (worksheet, number) =>
    { row with source := (sourceOf worksheet number).foldl (fun s p => s.put p.1 p.2) row.source }
  | none =>
    match cutAt? [':'] line with
    | none => row
    | some (key, value) =>
      let key := trimChars key
      if key.isEmpty then row
      else { row with data := row.data.put (String.ofList key) (sniff (String.ofList value)) }

/-- Reads lines of keys and values. -/
def readLines? (text : String) : Option Row :=
  let row := ((lines text.toList).map trimChars).foldl addLine ⟨[], []⟩
  if row.data.isEmpty && row.source.isEmpty then none else some row

/-! ## Either layout -/

/-- The text bears the mark of a sentence. -/
def looksLikeSentence (text : String) : Bool :=
  sentenceOpening.isPrefixOf (lowerChars (dropBlanks text.toList))

/-- The text bears the marks of lines of keys and values. -/
def looksLikeLines (text : String) : Bool :=
  text.toList.contains ':' && text.toList.contains '\n'

/-- Reads a row kept as text. -/
def readRow? (text : String) : Option Row :=
  if looksLikeSentence text then readSentence? text
  else if looksLikeLines text then readLines? text
  else none

/-- Reads a row kept as text, if the value is a text at all. -/
def readRowValue? : Value → Option Row
  | .text s => readRow? s
  | _ => none

end SheetRecall.Legacy
