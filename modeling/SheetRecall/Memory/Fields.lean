import SheetRecall.Catalog.Discovery
import SheetRecall.Memory.Basic

/-!
# Fields of an index

The catalog of an index and the most frequent values of its fields, which only a memory for rows
can tell.  A store that fails on the way is reported, and nothing counts as known.
-/

namespace SheetRecall.Memory

/-- A memory without rows knows no fields. -/
def needRows (m : Memory) : Task Session Unit :=
  if m.codec.rows.isSome then return else throw .noPart

/-- The tags and columns of an index. -/
def catalog (m : Memory) (index : String) : Task Session Catalog := do
  m.needRows
  let delivery ← m.ask index (Query.sample m.sampleSize)
  match Catalog.ofDelivery delivery with
  | .ok catalog => return catalog
  | .error _ =>
    report [.error ("Error getting filterable fields from index " ++ index)]
    return {}

/-- The most frequent values of a tag or column. -/
def topValues (m : Memory) (index : String) (kind : Catalog.Kind) (name : String) (limit : Value) :
    Task Session Catalog.TopValues := do
  m.needRows
  let delivery ← m.ask index (Query.valueCounts kind name)
  match delivery.collect with
  | .ok rows => Task.ofExcept (Catalog.rank rows limit)
  | .error _ =>
    report [.error ("Error getting top values for field " ++ kind.name ++ "." ++ name
      ++ " from index " ++ index)]
    return []

/-- The most frequent values of several tags and columns.  All are asked for, even if one fails; a
field that is named twice appears once. -/
def topValuesOf (m : Memory) (index : String) (fields : List (Catalog.Kind × String))
    (limit : Value) : Task Session (List ((Catalog.Kind × String) × Catalog.TopValues)) := do
  m.needRows
  let outcomes ← fields.mapM fun field => (m.topValues index field.1 field.2 limit).outcome
  let values ← Task.ofExcept (outcomes.mapM fun outcome => outcome)
  return (fields.zip values).foldl
    (fun found entry => if found.any (·.1 = entry.1) then found else found ++ [entry]) []

end SheetRecall.Memory
