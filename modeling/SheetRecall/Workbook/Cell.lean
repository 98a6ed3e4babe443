import SheetRecall.Fault
import SheetRecall.Value.Display
import SheetRecall.Workbook.Moment

/-!
# Cells

What a cell of a worksheet holds: a value, a date, a time of day, or both.  A cell is blank if it
holds null or the double that is no number; an empty text is no blank.  A list in a cell stands for
the one value that it holds.  No cell that is loaded from a file is a list; one that is made by hand
may be.  Durations, which a cell of a file may also hold, are left out.
-/

namespace SheetRecall.Workbook

/-- What a cell holds, unless it is a duration. -/
inductive Cell where
  | value (v : Value)
  | date (d : Date)
  | clock (t : Clock)
  | moment (d : Date) (t : Clock)

/-! ## Lists in cells -/

/-- What two lists have in common from their start on. -/
def commonStart : List Nat → List Nat → List Nat
  | a :: as, b :: bs => if a = b then a :: commonStart as bs else []
  | _, _ => []

mutual

/-- The lengths of lists within lists, so far as lists at one depth have one length. -/
def shape : Value → List Nat
  | .list items => items.length :: itemShape items
  | _ => []
termination_by structural v => v

/-- What the items have in common of their shapes. -/
def itemShape : List Value → List Nat
  | [] => []
  | [v] => shape v
  | v :: vs => commonStart (shape v) (itemShape vs)
termination_by structural vs => vs

end

/-- The number of values that a value holds: one, unless it is a list. -/
def countIn (v : Value) : Nat := (shape v).foldl (· * ·) 1

/-- The value within a list of one value. -/
def innermost : Value → Value
  | .list [v] => innermost v
  | v => v

/-- The value is null or the double that is no number. -/
def isMissing : Value → Bool
  | .null => true
  | .float x => x.isNaN
  | _ => false

namespace Cell

/-- The cell holds nothing. -/
def isBlank : Cell → Bool
  | value v => isMissing v
  | _ => false

/-- The cell holds nothing, also not within a list; of a list with any other number of values than
one, that cannot be said. -/
def holdsNothing : Cell → Except Fault Bool
  | value v =>
    if countIn v = 1 then .ok (isMissing (innermost v))
    else .error (.severalValues (countIn v = 0))
  | _ => .ok false

/-- The text of a cell. -/
def text : Cell → String
  | value v => v.display
  | date d => String.ofList d.chars
  | clock t => String.ofList t.chars
  | moment d t => String.ofList (d.chars ++ ' ' :: t.chars)

/-- What a row holds for a cell: dates in a format, and a text of its own for a cell that holds
nothing. -/
def toValue (layout blank : String) (cell : Cell) : Except Fault Value := do
  if ← cell.holdsNothing then return .text blank
  match cell with
  | value v => return v
  | date d => return .text (format d {} layout)
  | clock t => return .text (String.ofList t.chars)
  | moment d t => return .text (format d t layout)

end Cell

end SheetRecall.Workbook
