import SheetRecall.Query.Policy
import SheetRecall.Store.Container

/-!
# Accounts

Databases and the containers in them.  Whatever is asked of a database or a container that is not
there is answered with `notFound`; making one that is there already leaves it as it is.
-/

namespace SheetRecall.Store

/-- A database; its containers may be known before it is made. -/
structure Database where
  made : Bool := false
  containers : Entries Container := []

/-- The databases that a client reaches. -/
structure Account where
  databases : Entries Database := []
  keying : Keying := .byId

namespace Account

/-- The database with a name. -/
def database (account : Account) (name : String) : Database :=
  (account.databases.get? name).getD {}

/-- Changes a database. -/
def change (account : Account) (name : String) (f : Database → Database) : Account :=
  { account with databases := account.databases.alter name fun db => f (db.getD {}) }

/-- Makes a database. -/
def createDatabase (account : Account) (name : String) : Account :=
  account.change name fun db => { db with made := true }

/-- The container of an index. -/
def container (account : Account) (name index : String) : Except Fault Container :=
  match (account.database name).containers.get? index with
  | some c => .ok c
  | none => .error (.notFound ("Resource Not Found: " ++ index))

/-- Changes the container of an index, or makes it. -/
def putContainer (account : Account) (name index : String)
    (f : Option Container → Container) : Account :=
  account.change name fun db => { db with containers := db.containers.alter index f }

/-- What a new container is known by. -/
def newProperties (index : String) (vectorSize : Value) : Value :=
  .map [("id", .text index), ("vectorEmbeddingPolicy", Query.vectorPolicy vectorSize)]

/-- Makes the container of an index, unless it is there. -/
def createContainer (account : Account) (name index : String) (properties : Value) : Account :=
  account.putContainer name index fun c => c.getD { properties }

/-- What the containers of a database are known by. -/
def listContainers (account : Account) (name : String) : Except Fault (List Value) :=
  let db := account.database name
  if db.made then .ok (db.containers.map fun entry => entry.2.properties)
  else .error (.notFound "Database not found")

/-- Deletes the container of an index. -/
def deleteContainer (account : Account) (name index : String) : Except Fault Account :=
  let db := account.database name
  if db.made && (db.containers.get? index).isSome then
    .ok (account.change name fun db => { db with containers := db.containers.without index })
  else .error (.notFound ("Container " ++ index ++ " not found"))

/-- Puts a document into an index. -/
def upsert (account : Account) (name index : String) (document : Fields) :
    Except Fault Account := do
  let c ← account.container name index
  .ok (account.putContainer name index fun _ => c.upsert account.keying document)

/-- Deletes a document from an index. -/
def delete (account : Account) (name index id partition : String) : Except Fault Account := do
  let c ← account.container name index
  match c.delete? id partition with
  | some c => .ok (account.putContainer name index fun _ => c)
  | none => .error (.notFound ("Resource Not Found: " ++ id))

/-- The answer of an index to a query. -/
def answer (account : Account) (name index query : String) : Delivery :=
  match account.container name index with
  | .ok c => c.answer query
  | .error fault => ⟨[], some fault⟩

end Account

end SheetRecall.Store
