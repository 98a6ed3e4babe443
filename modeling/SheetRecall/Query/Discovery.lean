import SheetRecall.Catalog.Kind
import SheetRecall.Query.Statement

/-!
# Queries about an index

What asks for the fields of an index and for the values of one of them.  The values of a tag are
counted one by one, so the lists that hold them are unfolded first.
-/

namespace SheetRecall.Query

/-- How many documents the fields of an index are read from. -/
def defaultSampleSize : Int := 100

/-- How many values of a field are asked for. -/
def defaultTopValues : Value := .int 10

/-- The tags and rows of a sample of documents. -/
def sample (size : Value) : Statement :=
  ⟨"SELECT TOP @sample " ++ defaultItem ++ "." ++ Part.tags ++ ", " ++ defaultItem ++ "."
    ++ Part.data ++ " FROM " ++ defaultItem, [("@sample", size)]⟩

/-- The values of a tag or column and their counts. -/
def valueCounts (kind : Catalog.Kind) (name : String) : Statement :=
  match kind with
  | .tag =>
    ⟨"SELECT t AS fieldValue, COUNT(1) AS occurrences FROM " ++ defaultItem ++ " JOIN t IN "
      ++ propertyPath defaultItem Part.tags name ++ " GROUP BY t", []⟩
  | .column =>
    let path := propertyPath defaultItem Part.data name
    ⟨"SELECT " ++ path ++ " AS fieldValue, COUNT(1) AS occurrences FROM " ++ defaultItem
      ++ " WHERE IS_DEFINED(" ++ path ++ ") GROUP BY " ++ path, []⟩

end SheetRecall.Query
