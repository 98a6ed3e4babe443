import SheetRecall.Text.LowerTable
import SheetRecall.Text.UpperTable
import SheetRecall.Text.CasedTable
import SheetRecall.Text.CaseIgnorableTable

/-!
# Letter case

Full case mapping: a character may become several, and a capital sigma becomes a final sigma at
the end of a word.  Every other character maps without regard to its neighbours.
-/

namespace SheetRecall.Text

/-! ## Mapping one character -/

/-- The form that a case table gives for a character; a character in no table keeps its own. -/
def mapCase (runs : List CaseRun) (spellings : List (Nat × List Nat)) (c : Char) : List Char :=
  match spellings.lookup c.toNat with
  | some codes => codes.map Char.ofNat
  | none =>
    match runs.findSome? (·.image? c.toNat) with
    | some code => [Char.ofNat code]
    | none => [c]

/-- The lower-case form of a character that stands alone. -/
def lowerChar (c : Char) : List Char := mapCase lowerRuns lowerSpellings c

/-- The upper-case form of a character. -/
def upperChar (c : Char) : List Char := mapCase upperRuns upperSpellings c

/-! ## Mapping a text -/

/-- The first character that a word's case does not skip is cased. -/
def meetsCased (cs : List Char) : Bool :=
  match cs.find? fun c => !caseIgnorableRanges.has c with
  | some c => casedRanges.has c
  | none => false

/-- A capital sigma between `before` (nearest first) and `after` ends a word. -/
def endsWord (before after : List Char) : Bool :=
  meetsCased before && !meetsCased after

/-- The lower-case form of the text after the characters `before`, which are nearest first. -/
def lowerAfter : List Char → List Char → List Char
  | _, [] => []
  | before, c :: rest =>
    (if c = 'Σ' then [if endsWord before rest then 'ς' else 'σ'] else lowerChar c)
      ++ lowerAfter (c :: before) rest

/-- The lower-case form of a text. -/
def lowerChars (cs : List Char) : List Char := lowerAfter [] cs

/-- The lower-case form of a string. -/
def lower (s : String) : String := String.ofList (lowerChars s.toList)

/-- Two characters are the same letter when case is ignored; the long s is an s. -/
def sameLetter (a b : Char) : Bool :=
  fold a == fold b
where
  /-- The lower-case form, with the long s among the forms of s. -/
  fold (c : Char) : List Char := if c = 'ſ' then ['s'] else lowerChar c

/-- The text starts with `word`, case ignored; the answer is what follows. -/
def dropWordIgnoringCase : List Char → List Char → Option (List Char)
  | [], rest => some rest
  | _ :: _, [] => none
  | w :: word, c :: rest => if sameLetter w c then dropWordIgnoringCase word rest else none

end SheetRecall.Text
