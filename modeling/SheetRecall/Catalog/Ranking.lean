import SheetRecall.Json.Writer
import SheetRecall.Text.Slice
import SheetRecall.Value.Convert
import SheetRecall.Value.Display
import SheetRecall.Value.Same

/-!
# Ranking values

How often each value of a field occurs.  Values with the same text are counted together; the most
frequent texts come first, and of two equally frequent ones the text that was met first.
-/

namespace SheetRecall.Catalog

/-- Texts and how often each occurs. -/
abbrev TopValues := Entries Int

/-- The name of the value in a row of counts. -/
def valueName : String := "fieldValue"

/-- The name of the count in a row of counts. -/
def countName : String := "occurrences"

/-- The text under which a value is offered. -/
def offered : Value → String
  | .text s => s
  | .int n => (Value.int n).display
  | .float x => (Value.float x).display
  | v => Json.write {} v

/-- The text and the count of a row, if the row has a value. -/
def countOf : Value → Except Fault (Option (String × Int))
  | .map fields =>
    match Entries.get? fields valueName with
    | none => .ok none
    | some v => do
      .ok (some (offered v, ← ((Entries.get? fields countName).getD (.int 0)).toInt))
  | .list items => if items.any (Value.same (.text valueName)) then .error .wrongKind else .ok none
  | .text s => if Text.contains s valueName then .error .wrongKind else .ok none
  | _ => .error .wrongKind

/-- The sum of the counts of each text, texts in order of first appearance. -/
def totals (counts : List (String × Int)) : TopValues :=
  counts.foldl (fun totals count => totals.alter count.1 fun total => total.getD 0 + count.2) []

/-- The texts with the greatest counts, greatest first. -/
def mostFrequent (totals : TopValues) (limit : Nat) : TopValues :=
  (totals.mergeSort fun a b => b.2 ≤ a.2).take limit

/-- The number of values that a limit allows: none if it is negative.  A double is no number of
values, unless it is negative. -/
def allowed : Value → Except Fault Nat
  | .int n => .ok n.toNat
  | .bool b => .ok (if b then 1 else 0)
  | .float x => if x < 0.0 then .ok 0 else .error .wrongKind
  | _ => .error .wrongKind

/-- The most frequent values in rows of counts. -/
def rank (rows : List Value) (limit : Value) : Except Fault TopValues := do
  let counts ← rows.mapM countOf
  return mostFrequent (totals (counts.filterMap fun count => count)) (← allowed limit)

/-- A line for each value. -/
def describeValues (values : TopValues) : String :=
  "\n".intercalate (values.map fun (text, count) =>
    "- " ++ text ++ " (" ++ toString count ++ " occurrences)")

end SheetRecall.Catalog
