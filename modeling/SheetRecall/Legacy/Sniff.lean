import SheetRecall.Value.Basic
import SheetRecall.Decimal.Reading

/-!
# The value of a cell's text

The first kind that reads the text decides: a null marker, a boolean, an integer, a finite
double, and otherwise the trimmed text itself.
-/

namespace SheetRecall.Legacy

open SheetRecall.Text SheetRecall.Decimal

/-- The lower-case texts that mark an empty cell. -/
def nullMarkers : List String := ["", "null", "none", "nil", "n/a"]

/-- The value that a cell's text stands for.  Low lines are allowed in numbers elsewhere, but a
cell that holds one is no number. -/
def sniff (text : String) : Value :=
  let trimmed := trim text
  let lowered := lower trimmed
  if nullMarkers.contains lowered then .null
  else if lowered = "true" then .bool true
  else if lowered = "false" then .bool false
  else if trimmed.toList.contains '_' then .text trimmed
  else
    match readInt trimmed.toList with
    | .ok n => .int n
    | .error _ =>
      match readFloat? trimmed.toList with
      | some x => if isFinite x then .float x else .text trimmed
      | none => .text trimmed

end SheetRecall.Legacy
