import SheetRecall.Entries

/-!
# Values

The dynamic values that records carry, filters compare and documents store: null, booleans,
integers of any size, doubles, texts, lists, and maps that keep the order of their keys.

A map is a list of fields that repeats no key when it is built field by field.
-/

namespace SheetRecall

/-- A value of a record, a filter or a document. -/
inductive Value where
  | null
  | bool (b : Bool)
  | int (n : Int)
  | float (x : Float)
  | text (s : String)
  | list (items : List Value)
  | map (fields : List (String × Value))
  deriving Inhabited

/-- The fields of a map, in order. -/
abbrev Fields := Entries Value

namespace Value

/-- A value that stands for "nothing there": null, false, zero, or something empty. -/
def isVoid : Value → Bool
  | null => true
  | bool b => !b
  | int n => n == 0
  | float x => x == 0.0
  | text s => s.isEmpty
  | list items => items.isEmpty
  | map fields => fields.isEmpty

/-- The value is null. -/
def isNull : Value → Bool
  | null => true
  | _ => false

mutual

/-- No map inside the value repeats a key. -/
def WellKeyed : Value → Prop
  | list items => WellKeyedItems items
  | map fields => (fields.map (·.1)).Nodup ∧ WellKeyedFields fields
  | _ => True
termination_by structural v => v

/-- No item repeats a key in a map. -/
def WellKeyedItems : List Value → Prop
  | [] => True
  | v :: vs => WellKeyed v ∧ WellKeyedItems vs
termination_by structural vs => vs

/-- No field's value repeats a key in a map. -/
def WellKeyedFields : List (String × Value) → Prop
  | [] => True
  | (_, v) :: rest => WellKeyed v ∧ WellKeyedFields rest
termination_by structural fields => fields

end

end Value

end SheetRecall
