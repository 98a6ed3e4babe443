import SheetRecall.Query.Path
import SheetRecall.Value.Basic

/-!
# Policies of an index

What the store is told when an index is made: everything but the vectors is indexed by value, the
vectors by cosine distance.
-/

namespace SheetRecall.Query

/-- The path of the vectors. -/
def vectorPath : String := "/" ++ Part.embedding

/-- The path of the partition key. -/
def partitionPath : String := "/" ++ Part.file

/-- A policy's entry for one path. -/
def pathEntry (path : String) (more : Fields) : Value := .map (("path", .text path) :: more)

/-- What is indexed. -/
def indexingPolicy : Value :=
  .map [("indexingMode", .text "consistent"), ("automatic", .bool true),
    ("includedPaths", .list [pathEntry "/*" []]),
    ("excludedPaths", .list [pathEntry (vectorPath ++ "/*") [], pathEntry "/\"_etag\"/?" []]),
    ("vectorIndexes", .list [pathEntry vectorPath [("type", .text "quantizedFlat")]])]

/-- What vectors look like and how they are compared. -/
def vectorPolicy (size : Value) : Value :=
  .map [("vectorEmbeddings", .list [pathEntry vectorPath [("dataType", .text "float32"),
    ("distanceFunction", .text "cosine"), ("dimensions", size)]])]

end SheetRecall.Query
