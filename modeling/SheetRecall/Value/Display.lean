import SheetRecall.Value.Basic
import SheetRecall.Decimal.Notation
import SheetRecall.Text.Quoted

/-!
# The text of a value

A text stands for itself; any other value is spelled out, with the texts inside it quoted.  Every
value has a text; how deep a value may nest to be told, and how long an integer may be, is checked
by `Value.checkWritable`.
-/

namespace SheetRecall.Value

open SheetRecall.Text SheetRecall.Decimal

/-- The doubles without digits, as a value's text spells them. -/
def floatSpellings : Spellings := ⟨"nan", "inf", "-inf"⟩

mutual

/-- The value spelled out, texts quoted. -/
def spelled : Value → List Char
  | null => "None".toList
  | bool b => (if b then "True" else "False").toList
  | int n => intChars n
  | float x => floatChars floatSpellings x
  | text s => quoteChars s.toList
  | list items => '[' :: spelledItems items ++ [']']
  | map fields => '{' :: spelledFields fields ++ ['}']
termination_by structural v => v

/-- The items spelled out, with commas between them. -/
def spelledItems : List Value → List Char
  | [] => []
  | [v] => spelled v
  | v :: vs => spelled v ++ ", ".toList ++ spelledItems vs
termination_by structural vs => vs

/-- The fields spelled out, with commas between them. -/
def spelledFields : List (String × Value) → List Char
  | [] => []
  | [(key, v)] => quoteChars key.toList ++ ": ".toList ++ spelled v
  | (key, v) :: rest =>
    quoteChars key.toList ++ ": ".toList ++ spelled v ++ ", ".toList ++ spelledFields rest
termination_by structural fields => fields

end

/-- The text of a value. -/
def display : Value → String
  | text s => s
  | v => String.ofList (spelled v)

end SheetRecall.Value
