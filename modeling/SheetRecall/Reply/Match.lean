import SheetRecall.Fault
import SheetRecall.Json.Reader
import SheetRecall.Schema.Check
import SheetRecall.Value.Display

/-!
# Replies

What a model answers: criteria, the match of a field, the match of a value.  The keys of a reply
may be joined by capitals or by low lines; of two spellings of one key the one with capitals
counts.  Where a text is asked for, models give numbers and booleans too.
-/

namespace SheetRecall.Reply

open SheetRecall.Schema

/-! ## Parts -/

/-- The part of a reply under one of two spellings, or what stands for it when it is not there. -/
def part (fields : Fields) (spelling other : String) (check : Value → Checked α) (default : α) :
    Checked α :=
  if (fields.get? spelling).isSome then orDefault fields spelling check default
  else orDefault fields other check default

/-- The text that a value is read as. -/
def asText : Value → String
  | .null => ""
  | .bool b => if b then "true" else "false"
  | v => v.display

/-- Any value, as a text. -/
def checkAsText (v : Value) : Checked String := .ok (asText v)

/-- The whole number next to a double; of two that are equally near, the greater one. -/
def nearest? (x : Float) : Option Int := Decimal.floor? (x + 0.5)

/-- The double that a text or a double stands for. -/
def writtenFloat? : Value → Option Float
  | .float x => some x
  | .text s => Decimal.readFloat? s.toList
  | _ => none

/-- An importance: an integer, or a number that is near one. -/
def checkImportance (v : Value) : Checked Int :=
  match (writtenFloat? v).filter Decimal.isFinite with
  | some x =>
    match nearest? x with
    | some n => .ok n
    | none => checkInt v
  | none => checkInt v

/-! ## Criteria -/

/-- What a user seems to ask for. -/
structure Criterion where
  kind : String
  hint : String
  valueHint : String
  importance : Int
  deriving Repr, DecidableEq

namespace Criterion

/-- The criterion in a value. -/
def ofValue : Value → Checked Criterion
  | .map fields =>
    (both (part fields "fieldType" "field_type" (unbroken checkText) "data")
      (both (part fields "fieldNameHint" "field_name_hint" (unbroken checkAsText) "")
        (both (part fields "valueHint" "value_hint" (unbroken checkAsText) "")
          (orDefault fields "importance" (unbroken checkImportance) 3)))).map
      fun (kind, hint, valueHint, importance) => ⟨kind, hint, valueHint, importance⟩
  | _ => fail .notObject

/-- The fields of a criterion. -/
def toFields (c : Criterion) : Fields :=
  [("field_type", .text c.kind), ("field_name_hint", .text c.hint),
   ("value_hint", .text c.valueHint), ("importance", .int c.importance)]

end Criterion

/-! ## Matches -/

/-- The field that a model takes a hint for. -/
structure FieldMatch where
  kind : String
  name : String
  confidence : Float
  reasoning : String

/-- The value that a model takes a hint for. -/
structure ValueMatch where
  value : String
  confidence : Float
  reasoning : String

/-- The name that stands for no field. -/
def noField : String := "none"

namespace FieldMatch

/-- No field. -/
def none : FieldMatch := ⟨noField, noField, 0.0, ""⟩

/-- The match in a value. -/
def ofValue : Value → Checked FieldMatch
  | .map fields =>
    (both (part fields "fieldType" "field_type" checkText noField)
      (both (part fields "fieldName" "field_name" checkText noField)
        (both (orDefault fields "confidence" checkJsonFloat 0.0)
          (orDefault fields "reasoning" checkText "")))).map
      fun (kind, name, confidence, reasoning) => ⟨kind, name, confidence, reasoning⟩
  | _ => fail .notObject

/-- The fields of a match. -/
def toFields (m : FieldMatch) : Fields :=
  [("field_type", .text m.kind), ("field_name", .text m.name), ("confidence", .float m.confidence),
   ("reasoning", .text m.reasoning)]

end FieldMatch

namespace ValueMatch

/-- The match in a value. -/
def ofValue : Value → Checked ValueMatch
  | .map fields =>
    (both (orDefault fields "value" checkAsText "")
      (both (orDefault fields "confidence" checkJsonFloat 0.0)
        (orDefault fields "reasoning" checkText ""))).map
      fun (value, confidence, reasoning) => ⟨value, confidence, reasoning⟩
  | _ => fail .notObject

/-- The fields of a match. -/
def toFields (m : ValueMatch) : Fields :=
  [("value", .text m.value), ("confidence", .float m.confidence), ("reasoning", .text m.reasoning)]

end ValueMatch

/-! ## Reading -/

/-- Reads a match from JSON. -/
def readMatch (ofValue : Value → Checked α) (json : String) : Checked α :=
  match Json.read .strict json with
  | .ok v => ofValue v
  | .error _ => fail .noJson

/-- Reads a criterion from JSON. -/
def readCriterion (json : String) : Except Fault Criterion :=
  match Json.read .lenient json with
  | .ok v => (Criterion.ofValue v).orFault
  | .error .tooDeep => .error .tooDeep
  | .error _ => .error (.unusable none)

end SheetRecall.Reply
