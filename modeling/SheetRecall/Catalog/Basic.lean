import SheetRecall.Catalog.Kind
import SheetRecall.Column.Name
import SheetRecall.Value.Basic

/-!
# Catalogs

The tags and columns that are known to occur in an index.  A catalog comes from a sample of the
index, so an empty one says nothing.  Names are looked up without regard to case, and are listed in
the order of their characters.
-/

namespace SheetRecall

/-- The known tags and columns of an index. -/
structure Catalog where
  tags : List String := []
  columns : List String := []
  deriving Repr, DecidableEq

namespace Catalog

/-- The names of a kind. -/
def names (catalog : Catalog) : Kind → List String
  | .tag => catalog.tags
  | .column => catalog.columns

/-- Nothing is known. -/
def isEmpty (catalog : Catalog) : Bool := catalog.tags.isEmpty && catalog.columns.isEmpty

/-- The names are the same but for the case of letters. -/
def sameName (a b : String) : Bool := Text.lower a == Text.lower b

/-- The catalog's spelling of a name. -/
def find? (catalog : Catalog) (kind : Kind) (name : String) : Option String :=
  (catalog.names kind).find? fun known => sameName known name

/-- Names in the order of their characters. -/
def sortNames (names : List String) : List String := names.mergeSort fun a b => decide (a ≤ b)

/-- Adds the names that are not there in any case of letters. -/
def addNames (known : List String) (names : List String) : List String :=
  names.foldl (fun known name => if known.any (sameName name) then known else known ++ [name]) known

/-- The catalog as a map. -/
def toFields (catalog : Catalog) : Fields :=
  [("tags", .list ((sortNames catalog.tags).map .text)),
   ("data", .list ((sortNames catalog.columns).map .text))]

/-! ## Description -/

/-- A line on a tag. -/
def describeTag (name : String) : String :=
  "- Tag: " ++ name ++ " (internal name: " ++ name ++ ")"

/-- A line on a column. -/
def describeColumn (name : String) : String :=
  "- Data field: " ++ Column.readable name ++ " (internal name: " ++ name ++ ")"

/-- The catalog line by line. -/
def describe (catalog : Catalog) : String :=
  "\n".intercalate
    ((sortNames catalog.tags).map describeTag ++ (sortNames catalog.columns).map describeColumn)

end Catalog

end SheetRecall
