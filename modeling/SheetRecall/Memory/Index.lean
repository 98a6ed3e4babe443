import SheetRecall.Memory.Basic
import SheetRecall.Value.Same

/-!
# Indexes of a memory

Making, listing and deleting indexes, and the vector size that an index declares.  The size is
learnt when it is first needed, or when the index is made, and kept until the index is deleted.
-/

namespace SheetRecall.Memory

open SheetRecall.Store

/-- What a container is asked for with. -/
def settings (index : String) (size : Value) : Value :=
  .map [("id", .text index), ("partition_key", .text Query.partitionPath),
    ("indexing_policy", Query.indexingPolicy),
    ("vector_embedding_policy", Query.vectorPolicy size)]

/-- Makes an index, and its database. -/
def createIndex (m : Memory) (index : String) (size : Value) : Task Session Unit :=
  modify fun s =>
    let account := (s.account.createDatabase m.database).createContainer m.database index
      (Account.newProperties index size)
    { s with account, sizes := s.sizes.put index size }.record
      (.created (settings index size))

/-- The id among the properties of a container, unless it is void. -/
def idOf? : Value → Except Fault (Option Value)
  | .map properties =>
    match Entries.get? properties "id" with
    | some id => .ok (if id.isVoid then none else some id)
    | none => .ok none
  | _ => .error .noPart

/-- The ids of the indexes; a database that is not there has none. -/
def indexes (m : Memory) : Task Session (List Value) := do
  match (← get).account.listContainers m.database with
  | .ok properties =>
    return (← Task.ofExcept (properties.mapM idOf?)).filterMap fun id => id
  | .error (.notFound _) =>
    report [.warning ("Database " ++ m.database ++ " not found.")]
    return []
  | .error fault => throw fault

/-- Deletes an index; one that is not there is only reported. -/
def deleteIndex (m : Memory) (index : String) : Task Session Unit := do
  match (← get).account.deleteContainer m.database index with
  | .ok account => modify fun s => { s with account }
  | .error (.notFound _) =>
    report [.warning ("Index " ++ index ++ " or database " ++ m.database
      ++ " not found for deletion.")]
  | .error fault => throw fault
  modify fun s => { s with sizes := s.sizes.without index }

/-! ## Vector sizes -/

/-- A part of a value that must be a map; null when it is absent. -/
def partOf (key : String) : Value → Except Fault Value
  | .map fields => .ok ((Entries.get? fields key).getD .null)
  | _ => .error .noPart

/-- What an entry of a vector policy says about the size, if it is about the vectors. -/
def sizeIn (entry : Value) : Except Fault (Option Value) := do
  if (← partOf "path" entry).same (.text Query.vectorPath) then
    return some (← partOf "dimensions" entry)
  else return none

/-- What the entries of a vector policy say about the size. -/
def sizesIn (entries : Value) : Except Fault (List Value) := do
  if entries.isVoid then return []
  return (← (← entries.items).mapM sizeIn).filterMap fun size => size

/-- The vector size that the properties of a container declare; null if they declare none. -/
def declaredSize (properties : Value) : Except Fault Value := do
  let policy ← partOf "vectorEmbeddingPolicy" properties
  let entries ← partOf "vectorEmbeddings" (if policy.isVoid then .map [] else policy)
  match ← sizesIn entries with
  | [] => return .null
  | .null :: _ => return .null
  | size :: _ => return .int (← size.toInt)

/-- The vector size of an index; null if it declares none. -/
def vectorSize (m : Memory) (index : String) : Task Session Value := do
  let s ← get
  match s.sizes.get? index with
  | some size => return size
  | none =>
    let container ← Task.ofExcept (s.account.container m.database index)
    let size ← Task.ofExcept (declaredSize container.properties)
    if size.isNull then
      report [.warning ("Index " ++ index
        ++ " declares no vector dimension; vector sizes are not checked")]
    modify fun s => { s with sizes := s.sizes.put index size }
    return size

end SheetRecall.Memory
