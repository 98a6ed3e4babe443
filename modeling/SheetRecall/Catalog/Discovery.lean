import SheetRecall.Catalog.Basic
import SheetRecall.Catalog.Ranking
import SheetRecall.Query.Path
import SheetRecall.Store.Delivery

/-!
# Catalogs from documents

The catalog of the tags and columns in a sample of documents.  Of names that differ in case only,
the one that is met first stands; a part that is no map has no names.  A sample that breaks off
gives no catalog at all.
-/

namespace SheetRecall.Catalog

open SheetRecall.Store

/-- The names in a part of a document. -/
def namesIn (part : String) : Value → Except Fault (List String)
  | .map document =>
    match Entries.get? document part with
    | some (.map fields) => .ok (Entries.names fields)
    | _ => .ok []
  | _ => .error .noPart

/-- Adds the names in a document. -/
def addDocument (catalog : Catalog) (document : Value) : Except Fault Catalog := do
  let tags ← namesIn Part.tags document
  let columns ← namesIn Part.data document
  .ok ⟨addNames catalog.tags tags, addNames catalog.columns columns⟩

/-- The catalog of documents. -/
def ofDocuments (documents : List Value) : Except Fault Catalog :=
  documents.foldlM addDocument {}

/-- The catalog of a sample. -/
def ofDelivery (d : Delivery) : Except Fault Catalog := do ofDocuments (← d.collect)

end SheetRecall.Catalog
