import SheetRecall.Catalog.Basic
import SheetRecall.Catalog.Ranking
import SheetRecall.Filter.Basic
import SheetRecall.Notice
import SheetRecall.Prompt.Basic
import SheetRecall.Query.Discovery
import SheetRecall.Reply.JsonText
import SheetRecall.Reply.Match
import SheetRecall.Task

/-!
# Grounding

A filter is grounded in an index when every field it names is one of the index and every value was
confirmed against those that the field has.  The parts of a grounding, the thresholds that decide
what counts as confirmed, and the surroundings that the work needs: a catalog, the values of a
field, and a model that answers prompts.
-/

namespace SheetRecall.Grounding

/-- When a match counts, and how much is looked at.  A threshold is a value of any kind; one that
cannot be compared is a fault when it is needed. -/
structure Thresholds where
  /-- Matches with less confidence are dropped. -/
  confident : Value := .float 0.6
  /-- Matches with more confidence are strong. -/
  strong : Value := .float 0.8
  /-- From this importance on a strong match ends the work. -/
  important : Value := .int 4
  /-- How many criteria are taken from the model. -/
  maxCriteria : Value := .int 3
  /-- How many values of a field are looked at. -/
  maxValues : Value := Query.defaultTopValues

/-- A criterion whose field and value are confirmed. -/
structure Applied where
  kind : Catalog.Kind
  name : String
  value : String
  importance : Int
  fieldConfidence : Float
  valueConfidence : Float

namespace Applied

/-- The key under which a filter addresses the field. -/
def key (a : Applied) : String :=
  match a.kind with
  | .tag => a.name
  | .column => Filter.columnMark ++ a.name

/-- The fields of an applied criterion. -/
def toFields (a : Applied) : Fields :=
  [("field_type", .text a.kind.name), ("field_name", .text a.name), ("value", .text a.value),
   ("importance", .int a.importance), ("field_confidence", .float a.fieldConfidence),
   ("value_confidence", .float a.valueConfidence)]

/-- The match is strong and important enough to end the work. -/
def isDecisive (t : Thresholds) (a : Applied) : Except Fault Bool := do
  if !(← t.important.toNumber).le (.int a.importance) then return false
  let strong ← t.strong.toNumber
  return strong.lt (.float a.fieldConfidence) && strong.lt (.float a.valueConfidence)

end Applied

/-- What became of a question. -/
structure Result where
  question : String
  criteria : List Reply.Criterion := []
  applied : List Applied := []
  filters : List Fields := []
  stoppedEarly : Bool := false

/-- The fields of a result. -/
def Result.toFields (r : Result) : Fields :=
  [("query", .text r.question),
   ("criteria", .list (r.criteria.map fun c => .map c.toFields)),
   ("applied", .list (r.applied.map fun a => .map a.toFields)),
   ("filters", .list (r.filters.map .map)), ("stopped_early", .bool r.stoppedEarly)]

/-- What grounding needs from outside. -/
structure Surroundings (σ : Type) where
  /-- The name of the index. -/
  index : String
  /-- The tags and columns of the index. -/
  catalog : Task σ Catalog
  /-- The most frequent values of a tag or column. -/
  topValues : Catalog.Kind → String → Value → Task σ Catalog.TopValues
  /-- The reply of the model, which may fail or be no text. -/
  answer : Prompt → Task σ (Option String)
  /-- Takes down a notice. -/
  report : Notice → σ → σ

namespace Surroundings

/-- Takes down a notice. -/
def say (env : Surroundings σ) (notice : Notice) : Task σ Unit := modify (env.report notice)

/-- The JSON in the model's reply, or nothing if the model fails. -/
def jsonReply? (env : Surroundings σ) (prompt : Prompt) : Task σ (Option String) := do
  match ← (env.answer prompt).outcome with
  | .ok reply => return some (Reply.jsonText reply)
  | .error _ => return none

end Surroundings

end SheetRecall.Grounding
