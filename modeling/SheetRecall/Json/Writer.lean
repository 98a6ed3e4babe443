import SheetRecall.Value.Basic
import SheetRecall.Decimal.Notation
import SheetRecall.Text.Quoted

/-!
# Writing JSON

A value as one line of JSON: a comma or colon is followed by one space, doubles are written with
their shortest digits and the doubles that are no decimal by name.  A style chooses whether
characters beyond ASCII are escaped, as UTF-16 units, and whether maps are sorted by key.  There is
JSON for every value; how deep a value may nest to be written, and how long an integer may be, is
checked by `Value.checkWritable`.
-/

namespace SheetRecall.Json

open SheetRecall.Text SheetRecall.Decimal

/-- The choices that JSON leaves to its writer. -/
structure Style where
  asciiOnly : Bool := false
  sortKeys : Bool := false
  deriving Repr, DecidableEq

/-- The doubles without digits, as JSON text spells them. -/
def floatSpellings : Spellings := ⟨"NaN", "Infinity", "-Infinity"⟩

/-! ## Texts -/

/-- The escape of one UTF-16 unit. -/
def escapeUnit (unit : Nat) : List Char := '\\' :: 'u' :: hexDigits 4 unit

/-- The escapes of a character: one unit, or a surrogate pair. -/
def escapeUnits (code : Nat) : List Char :=
  if code < 0x10000 then escapeUnit code
  else
    escapeUnit (0xd800 + (code - 0x10000) / 0x400) ++ escapeUnit (0xdc00 + (code - 0x10000) % 0x400)

/-- One character of a JSON text. -/
def escapeChar (asciiOnly : Bool) (c : Char) : List Char :=
  if c = '"' then ['\\', '"']
  else if c = '\\' then ['\\', '\\']
  else if c = '\n' then ['\\', 'n']
  else if c = '\r' then ['\\', 'r']
  else if c = '\t' then ['\\', 't']
  else if c = '\x08' then ['\\', 'b']
  else if c = '\x0c' then ['\\', 'f']
  else if c.toNat < 0x20 then escapeUnit c.toNat
  else if asciiOnly && 0x7f ≤ c.toNat then escapeUnits c.toNat
  else [c]

/-- A text between double quotes. -/
def writeText (asciiOnly : Bool) (cs : List Char) : List Char :=
  '"' :: cs.flatMap (escapeChar asciiOnly) ++ ['"']

/-! ## Values -/

mutual

/-- The map fields of a value sorted by key, at every level. -/
def sorted : Value → Value
  | .list items => .list (sortedItems items)
  | .map fields =>
    .map ((sortedFields fields).mergeSort fun a b => decide (a.1 ≤ b.1))
  | v => v
termination_by structural v => v

/-- The items with their maps sorted. -/
def sortedItems : List Value → List Value
  | [] => []
  | v :: vs => sorted v :: sortedItems vs
termination_by structural vs => vs

/-- The fields in their order, with the maps in their values sorted. -/
def sortedFields : List (String × Value) → List (String × Value)
  | [] => []
  | (key, v) :: rest => (key, sorted v) :: sortedFields rest
termination_by structural fields => fields

end

mutual

/-- A value as JSON, its maps in the order they have. -/
def writeValue (asciiOnly : Bool) : Value → List Char
  | .null => "null".toList
  | .bool b => (if b then "true" else "false").toList
  | .int n => intChars n
  | .float x => floatChars floatSpellings x
  | .text s => writeText asciiOnly s.toList
  | .list items => '[' :: writeItems asciiOnly items ++ [']']
  | .map fields => '{' :: writeFields asciiOnly fields ++ ['}']
termination_by structural v => v

/-- The items of a list, with commas between them. -/
def writeItems (asciiOnly : Bool) : List Value → List Char
  | [] => []
  | [v] => writeValue asciiOnly v
  | v :: vs => writeValue asciiOnly v ++ ", ".toList ++ writeItems asciiOnly vs
termination_by structural vs => vs

/-- The fields of a map, with commas between them. -/
def writeFields (asciiOnly : Bool) : List (String × Value) → List Char
  | [] => []
  | [(key, v)] => writeText asciiOnly key.toList ++ ": ".toList ++ writeValue asciiOnly v
  | (key, v) :: rest =>
    writeText asciiOnly key.toList ++ ": ".toList ++ writeValue asciiOnly v ++ ", ".toList
      ++ writeFields asciiOnly rest
termination_by structural fields => fields

end

/-- The value that is written in a style. -/
def styled (style : Style) (v : Value) : Value := if style.sortKeys then sorted v else v

/-- A value as JSON in a style. -/
def write (style : Style) (v : Value) : String :=
  String.ofList (writeValue style.asciiOnly (styled style v))

end SheetRecall.Json
