import SheetRecall.Text.Case
import SheetRecall.Text.Slice

/-!
# Kinds of fields

What an index can be filtered by: the tags of its records, and the columns of its rows.
-/

namespace SheetRecall.Catalog

/-- A tag of records or a column of rows. -/
inductive Kind where
  | tag
  | column
  deriving Repr, DecidableEq

namespace Kind

/-- The word for a kind. -/
def name : Kind → String
  | tag => "tag"
  | column => "data"

/-- The kind that a word stands for: a column, unless the word is one for tags. -/
def ofWord (word : String) : Kind :=
  if ["tag", "tags"].contains (Text.lower (Text.trim word)) then tag else column

/-- The kind that is not this one. -/
def other : Kind → Kind
  | tag => column
  | column => tag

end Kind

end SheetRecall.Catalog
