import SheetRecall.Document.Codec
import SheetRecall.Filter.Compile

/-!
# Queries

The statements that the store is asked: their text holds names only, every value is bound to a
parameter.  A similarity query puts the closest documents first.
-/

namespace SheetRecall.Query

/-- A query and the values of its parameters. -/
structure Statement where
  text : String
  parameters : List (String × Value) := []

/-- The name of the distance in the rows of a similarity query. -/
def scoreName : String := "SimilarityScore"

/-- The parameter with the number of documents that are asked for. -/
def limitParameter : String := "@limit"

/-- The parameter with the vector that documents are compared with. -/
def vectorParameter : String := "@queryEmbedding"

/-- The distance of a document's vector from the vector of the query. -/
def distanceText (item : String) : String :=
  "VectorDistance(" ++ item ++ "." ++ Part.embedding ++ ", " ++ vectorParameter ++ ")"

/-- The documents that match compiled filters. -/
def list (codec : Codec) (compiled : Filter.Compiled) (limit : Value) (withVectors : Bool) :
    Statement :=
  let item := compiled.item
  let condition := compiled.whereText
  ⟨"SELECT TOP " ++ limitParameter ++ " " ++ codec.columns item withVectors ++ " FROM " ++ item
      ++ (if condition.isEmpty then "" else " " ++ condition),
   (limitParameter, limit) :: compiled.parameters⟩

/-- The documents that match compiled filters, those closest to a vector first. -/
def similarity (codec : Codec) (compiled : Filter.Compiled) (vector : List Float) (limit : Value)
    (withVectors : Bool) : Statement :=
  let item := compiled.item
  let condition := compiled.whereText
  ⟨"SELECT TOP " ++ limitParameter ++ " " ++ codec.columns item withVectors ++ ", "
      ++ distanceText item ++ " AS " ++ scoreName ++ " FROM " ++ item ++ " "
      ++ (if condition.isEmpty then "" else condition ++ " ") ++ "ORDER BY " ++ distanceText item,
   (limitParameter, limit) :: (vectorParameter, .list (vector.map .float))
      :: compiled.parameters⟩

end SheetRecall.Query
