import SheetRecall.Value.Same

/-!
# Filters

A filter is an ordered set of pairs of a key and a value that must all hold.  A key that starts
with `data.` addresses a column of the row, any other key a tag.  A pair with the null value asks
for nothing.
-/

namespace SheetRecall

/-- Pairs that must all hold, each once, in the order in which they were added. -/
structure Filter where
  pairs : List (String × Value)

namespace Filter

/-- What the keys of columns start with. -/
def columnMark : String := "data."

/-- The filter that asks for nothing. -/
def empty : Filter := ⟨[]⟩

/-- The filter has a pair with the key and an equal value, for a given equality of values. -/
def hasBy (equal : Value → Value → Bool) (f : Filter) (key : String) (value : Value) : Bool :=
  f.pairs.any fun pair => pair.1 == key && equal pair.2 value

/-- Adds a pair, unless the filter has an equal one. -/
def addBy (equal : Value → Value → Bool) (f : Filter) (key : String) (value : Value) : Filter :=
  if f.hasBy equal key value then f else ⟨f.pairs ++ [(key, value)]⟩

/-- Adds a pair, unless the filter has it. -/
def add (f : Filter) (key : String) (value : Value) : Filter := f.addBy Value.same key value

/-- Adds a pair for a tag. -/
def byTag (f : Filter) (tag : String) (value : Value) : Filter := f.add tag value

/-- Adds a pair for a column. -/
def byColumn (f : Filter) (column : String) (value : Value) : Filter :=
  f.add (columnMark ++ column) value

/-- Adds pair after pair. -/
def addAllBy (equal : Value → Value → Bool) (f : Filter) (pairs : List (String × Value)) :
    Filter :=
  pairs.foldl (fun f pair => f.addBy equal pair.1 pair.2) f

/-- The filter of the pairs. -/
def ofPairs (pairs : List (String × Value)) : Filter := empty.addAllBy Value.same pairs

/-- The pairs that a field stands for: one for each item of a list, one for any other value. -/
def fieldPairs (field : String × Value) : List (String × Value) :=
  match field.2 with
  | .list items => items.map fun item => (field.1, item)
  | value => [(field.1, value)]

/-- The filter of a map's fields, for a given equality of values. -/
def ofMapBy (equal : Value → Value → Bool) (fields : Fields) : Filter :=
  empty.addAllBy equal (fields.flatMap fieldPairs)

/-- The filter of a map's fields. -/
def ofMap (fields : Fields) : Filter := ofMapBy Value.same fields

/-- No pair asks for anything. -/
def isEmpty (f : Filter) : Bool := f.pairs.all fun pair => pair.2.isNull

/-- The values of each key, keys in order of first appearance. -/
def groups (f : Filter) : Entries (List Value) :=
  f.pairs.foldl (fun lists pair => lists.alter pair.1 fun values => values.getD [] ++ [pair.2]) []

/-- The filter as a map from keys to lists of values. -/
def toMap (f : Filter) : Fields := f.groups.map fun (key, values) => (key, .list values)

/-- The filters have equal pairs in the same order. -/
def same (f g : Filter) : Bool :=
  f.pairs.length == g.pairs.length &&
    (f.pairs.zip g.pairs).all fun (a, b) => a.1 == b.1 && a.2.same b.2

end Filter

end SheetRecall
