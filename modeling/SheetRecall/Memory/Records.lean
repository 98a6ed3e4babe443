import SheetRecall.Memory.Index

/-!
# Records of a memory

Writing and deleting records.  A record is written only if its vector has the size that the index
declares and holds finite numbers; deleting a record that is not there changes nothing.
-/

namespace SheetRecall.Memory

/-- Why a vector does not fit an index. -/
def sizeFault (record : Record) (index : String) (size : Value) : Fault :=
  .unusable (some ("Record " ++ record.id ++ " has a vector of size "
    ++ toString record.vector.length ++ ", index " ++ index ++ " expects " ++ size.display))

/-- Why a vector cannot be stored at all. -/
def finiteFault (record : Record) : Fault :=
  .unusable (some ("Record " ++ record.id ++ " has a vector with non-finite values"))

/-- The vector has the size, if there is one, and holds finite numbers. -/
def fits (record : Record) (index : String) (size : Value) : Except Fault Unit :=
  if !size.isNull && !size.same (.int record.vector.length) then
    .error (sizeFault record index size)
  else if record.vector.all Decimal.isFinite then .ok ()
  else .error (finiteFault record)

/-- Writes a record, and gives its id. -/
def upsert (m : Memory) (index : String) (record : Record) : Task Session String := do
  let size ← m.vectorSize index
  Task.ofExcept (fits record index size)
  let encoded ← Task.ofExcept (m.codec.encode record)
  report encoded.notices
  changeAccount fun account => account.upsert m.database index encoded.document
  return record.id

/-- Deletes a record. -/
def delete (m : Memory) (index : String) (record : Record) : Task Session Unit := do
  let account := (← get).account
  match account.delete m.database index (Ident.encode record.id) (m.codec.partition record) with
  | .ok account => modify fun s => { s with account }
  | .error (.notFound _) => return
  | .error fault => throw fault

end SheetRecall.Memory
