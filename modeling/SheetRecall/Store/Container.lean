import SheetRecall.Query.Path
import SheetRecall.Store.Delivery
import SheetRecall.Text.Slice

/-!
# Containers

The documents of one index.  A container replaces a document by one with the same key, and deletes
a document only from the partition that the document is in.  Its answer to a query may be prepared;
otherwise it delivers its documents as they are and leaves selection to the query's own store.
-/

namespace SheetRecall.Store

/-- What tells the documents of a container apart. -/
inductive Keying where
  /-- The id alone. -/
  | byId
  /-- The partition and the id. -/
  | byPartition
  deriving Repr, DecidableEq

/-- The documents of an index. -/
structure Container where
  /-- What the container is known by. -/
  properties : Value
  documents : List Fields := []
  /-- Rows that answer the queries with a given text in them. -/
  prepared : List (String × List Value) := []
  /-- A fault that ends every answer, and the number of rows before it. -/
  failure : Option (Nat × Fault) := none

namespace Container

/-- The text in a part of a document. -/
def textAt (document : Fields) (part : String) : Option String :=
  match document.get? part with
  | some (.text s) => some s
  | _ => none

/-- The documents have one key. -/
def sameKey (keying : Keying) (d e : Fields) : Bool :=
  textAt d Part.id == textAt e Part.id &&
    match keying with
    | .byId => true
    | .byPartition => textAt d Part.file == textAt e Part.file

/-- Puts a document among others: in the place of the one with its key, or at the end. -/
def putDocument (keying : Keying) (documents : List Fields) (document : Fields) : List Fields :=
  match documents with
  | [] => [document]
  | d :: rest =>
    if sameKey keying d document then document :: rest
    else d :: putDocument keying rest document

/-- Puts a document into the container. -/
def upsert (keying : Keying) (c : Container) (document : Fields) : Container :=
  { c with documents := putDocument keying c.documents document }

/-- The document has the id and is in the partition. -/
def isAt (id partition : String) (document : Fields) : Bool :=
  textAt document Part.id == some id && textAt document Part.file == some partition

/-- Deletes a document, if there is one with the id in the partition. -/
def delete? (c : Container) (id partition : String) : Option Container :=
  if c.documents.any (isAt id partition) then
    some { c with documents := c.documents.filter fun d => !isAt id partition d }
  else none

/-- The rows that answer a query. -/
def rowsFor (c : Container) (query : String) : List Value :=
  match c.prepared.find? fun answer => Text.contains query answer.1 with
  | some answer => answer.2
  | none => c.documents.map .map

/-- The answer to a query. -/
def answer (c : Container) (query : String) : Delivery :=
  match c.failure with
  | none => ⟨c.rowsFor query, none⟩
  | some (after, fault) => ⟨(c.rowsFor query).take after, some fault⟩

end Container

end SheetRecall.Store
