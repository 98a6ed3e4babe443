import SheetRecall.Decimal.Notation
import SheetRecall.Decimal.Reading
import SheetRecall.Fault
import SheetRecall.Value.Basic

/-!
# Values that can be written

Both ways to write a value, its own text and its JSON, stop at an integer with too many digits and
at lists and maps that nest too deeply.  What they write is defined for every value; whoever writes
values that anyone may have made goes through them here first.
-/

namespace SheetRecall.Value

open SheetRecall.Decimal

/-- The integer has more digits than are written. -/
def isLong (n : Int) : Bool := maxIntegerDigits < (natDigits n.natAbs).length

mutual

/-- Goes through a value up to the first thing that cannot be written; `room` is the number of lists
and maps that may be opened. -/
def checkWritable : Value → Nat → Except Fault Unit
  | int n, _ => if isLong n then .error (.unusable none) else .ok ()
  | list items, room =>
    if items.isEmpty then .ok ()
    else if room = 0 then .error .tooDeep
    else checkWritableItems items (room - 1)
  | map fields, room =>
    if fields.isEmpty then .ok ()
    else if room = 0 then .error .tooDeep
    else checkWritableFields fields (room - 1)
  | _, _ => .ok ()
termination_by structural v => v

/-- Goes through the items of a list. -/
def checkWritableItems : List Value → Nat → Except Fault Unit
  | [], _ => .ok ()
  | v :: vs, room => do
    checkWritable v room
    checkWritableItems vs room
termination_by structural vs => vs

/-- Goes through the values of fields. -/
def checkWritableFields : List (String × Value) → Nat → Except Fault Unit
  | [], _ => .ok ()
  | (_, v) :: rest, room => do
    checkWritable v room
    checkWritableFields rest room
termination_by structural fields => fields

end

end SheetRecall.Value
