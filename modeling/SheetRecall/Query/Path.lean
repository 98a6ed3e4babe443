/-!
# Paths into documents

The names of a document's parts and the way a property is addressed in a query.  A property name
stands between double quotes, and a backslash goes before each quote and each backslash in it, so
that the first bare quote ends the name.
-/

namespace SheetRecall

namespace Part

/-- The part with the document's id. -/
def id : String := "id"

/-- The part with the partition key. -/
def file : String := "file"

/-- The part with the tags. -/
def tags : String := "tags"

/-- The part with the vector. -/
def embedding : String := "embedding"

/-- The part with the payload. -/
def payload : String := "payload"

/-- The part with the row's values. -/
def data : String := "data"

/-- The part with the row's provenance. -/
def source : String := "source"

end Part

namespace Query

/-- The characters of a property name with a backslash before quotes and backslashes. -/
def escapeName (cs : List Char) : List Char :=
  cs.flatMap fun c => if c = '\\' || c = '"' then ['\\', c] else [c]

/-- A property name between quotes. -/
def quoteName (name : String) : String :=
  "\"" ++ String.ofList (escapeName name.toList) ++ "\""

/-- The path of a property inside a part of the document. -/
def propertyPath (item part name : String) : String :=
  item ++ "." ++ part ++ "[" ++ quoteName name ++ "]"

/-- The name under which documents go when a query is free to choose. -/
def defaultItem : String := "c"

end Query

end SheetRecall
