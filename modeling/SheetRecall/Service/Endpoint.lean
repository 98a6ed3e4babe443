import SheetRecall.Service.Http
import SheetRecall.Text.Slice

/-!
# Endpoints

What can be asked of the service, and the paths under which it is asked.  A path that ends in a
slash stands for the path without it, if only that one is known.
-/

namespace SheetRecall.Service

/-- What can be asked of the service. -/
inductive Endpoint where
  | root
  | health
  | listIndexes
  | createIndex (index : String)
  | deleteIndex (index : String)
  | importFile (index : String)
  | fields (index : String)
  | values (index kind name : String)
  | search (index : String)
  | ask (index : String)
  deriving Repr, DecidableEq

namespace Endpoint

/-- The endpoint takes a body of JSON. -/
def readsBody : Endpoint → Bool
  | search _ => true
  | ask _ => true
  | _ => false

/-- The endpoints with the segments of a path, by method. -/
def atSegments : List String → List (Method × Endpoint)
  | [""] => [(.get, root)]
  | ["api", "health"] => [(.get, health)]
  | ["api", "indexes"] => [(.get, listIndexes)]
  | ["api", "indexes", index] =>
    if index.isEmpty then [] else [(.post, createIndex index), (.delete, deleteIndex index)]
  | ["api", "indexes", index, last] =>
    if index.isEmpty then []
    else if last = "import" then [(.post, importFile index)]
    else if last = "fields" then [(.get, fields index)]
    else if last = "search" then [(.post, search index)]
    else if last = "query" then [(.post, ask index)]
    else []
  | ["api", "indexes", index, "fields", kind, name, "values"] =>
    if index.isEmpty || kind.isEmpty || name.isEmpty then [] else [(.get, values index kind name)]
  | _ => []

/-- The segments of a path behind its first slash. -/
def segments (path : String) : List String :=
  (Text.splitOn '/' (path.toList.drop 1)).map String.ofList

/-- The path without the slashes at its end. -/
def withoutSlashes (path : String) : String :=
  String.ofList (path.toList.reverse.dropWhile (· = '/')).reverse

/-- The endpoints at a path. -/
def atPath (path : String) : List (Method × Endpoint) :=
  match atSegments (segments path) with
  | [] => atSegments (segments (withoutSlashes path))
  | found => found

/-- The endpoint of a request. -/
def ofRequest (r : Request) : Except Response Endpoint :=
  match atPath r.path with
  | [] => .error (.refusal 404 "Not Found")
  | found =>
    match found.lookup r.method with
    | some endpoint => .ok endpoint
    | none => .error (.refusal 405 "Method Not Allowed")

end Endpoint

end SheetRecall.Service
