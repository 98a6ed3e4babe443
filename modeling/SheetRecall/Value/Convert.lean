import SheetRecall.Fault
import SheetRecall.Value.Display
import SheetRecall.Value.Same
import SheetRecall.Decimal.Reading

/-!
# Conversions

A value taken for a double, an integer, a list or a map although it is of another kind: a text may
spell a number in digits of any script, a text holds its characters, a map its keys, and a list of
pairs makes a map.  A value of a kind that cannot be taken so is the fault `wrongKind`; one of the
right kind that still does not fit is `unusable`.
-/

namespace SheetRecall.Value

open SheetRecall.Decimal

/-- The double that a value stands for. -/
def toFloat : Value → Except Fault Float
  | float x => .ok x
  | bool b => .ok (if b then 1.0 else 0.0)
  | int n =>
    match ofInt? n with
    | some x => .ok x
    | none => .error .outOfRange
  | text s =>
    match readFloat? s.toList with
    | some x => .ok x
    | none => .error (.unusable none)
  | _ => .error .wrongKind

/-- The integer that a value stands for; a double loses its fraction. -/
def toInt : Value → Except Fault Int
  | int n => .ok n
  | bool b => .ok (if b then 1 else 0)
  | float x =>
    match truncate? x with
    | some n => .ok n
    | none => .error (if x.isNaN then .noInteger .noNumber else .outOfRange)
  | text s =>
    match readInt s.toList with
    | .ok n => .ok n
    | .error .malformed => .error (.noInteger (.text s))
    | .error (.tooLong digits) => .error (.noInteger (.digits digits))
  | _ => .error .wrongKind

/-- The number that a value is. -/
def toNumber (v : Value) : Except Fault Number := v.number?.elim (.error .wrongKind) .ok

/-- The items that a value holds, one by one: of a text its characters, of a map its keys. -/
def items : Value → Except Fault (List Value)
  | list items => .ok items
  | text s => .ok (s.toList.map fun c => .text (String.singleton c))
  | map fields => .ok (fields.map fun field => .text field.1)
  | _ => .error .wrongKind

/-- The doubles that a value holds. -/
def toVector (v : Value) : Except Fault (List Float) := do (← v.items).mapM toFloat

/-- The key and the value that an item of a list makes a pair of; a list or a map is no key. -/
def toPair (item : Value) : Except Fault (Value × Value) := do
  match ← item.items with
  | [list _, _] => .error .wrongKind
  | [map _, _] => .error .wrongKind
  | [key, value] => .ok (key, value)
  | _ => .error (.unusable none)

/-- Sets the value of a key: in place if an equal key is there, at the end otherwise. -/
def putPair : List (Value × Value) → Value × Value → List (Value × Value)
  | [], pair => [pair]
  | (key, value) :: rest, pair =>
    if key.same pair.1 then (key, pair.2) :: rest else (key, value) :: putPair rest pair

/-- The pairs that a value stands for, keys once: the fields of a map, the items of a list; nothing
stands for no pairs. -/
def toPairs : Value → Except Fault (List (Value × Value))
  | map fields => .ok (fields.map fun (key, value) => (text key, value))
  | v => if v.isVoid then .ok [] else do return (← (← v.items).mapM toPair).foldl putPair []

/-! ## Keys -/

/-- The step of a path that a key is. -/
def keyStep : Value → Schema.Step
  | text s => .field s
  | bool b => .item (if b then 1 else 0)
  | int n => if Number.isWord n then .item n else .field (int n).display
  | key => .field key.display

/-- What is wrong with a key, if it is no text. -/
def keyIssue? (key : Value) : Option Schema.Issue :=
  match key with
  | text _ => none
  | key => some ⟨.notText, [keyStep key, .field "[key]"]⟩

/-- The field of a pair, if its key is a text. -/
def textField? : Value × Value → Option (String × Value)
  | (text key, value) => some (key, value)
  | _ => none

/-- The fields that pairs make, if every key is a text. -/
def fieldsOf (pairs : List (Value × Value)) : Schema.Checked Fields :=
  match pairs.filterMap fun pair => keyIssue? pair.1 with
  | [] => .ok (Entries.ofPairs (pairs.filterMap textField?))
  | issues => .error issues

/-- The map that a value stands for; nothing stands for the empty map. -/
def toFields (v : Value) : Except Fault Fields := do (fieldsOf (← v.toPairs)).orFault

end SheetRecall.Value
