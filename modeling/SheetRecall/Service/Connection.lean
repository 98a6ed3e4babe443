import SheetRecall.Service.Settings

/-!
# Connections

The connection of the service to its store.  Connecting makes a client and asks the store for the
database; if the store refuses, the client is closed and there is no connection.  The name of the
database outlives the connection.
-/

namespace SheetRecall.Service

/-- The clients made so far, and the one in use. -/
structure Connection where
  /-- For each client whether it was closed. -/
  closed : List Bool := []
  /-- The number of the client in use. -/
  current : Option Nat := none
  /-- The database in use. -/
  database : Option String := none
  /-- The database that was connected to last. -/
  name : Option String := none
  deriving Repr, DecidableEq

namespace Connection

/-- What is missing without a database. -/
def noDatabase : Fault :=
  .broken "Database not initialized. Call connect_to_cosmosdb() first."

/-- What is missing without a client. -/
def noClient : Fault :=
  .broken "Cosmos DB client not initialized. Call connect_to_cosmosdb() first."

/-- Connects; `reach` asks the store for the database. -/
def connect (reach : StoreSettings → Except Fault Unit) (c : Connection) (s : StoreSettings) :
    Except Fault Unit × Connection :=
  if (s.apiKey.getD "").isEmpty then
    (.error (.unusable (some (apiKeyName ++ " not found in environment"))), c)
  else
    match reach s with
    | .ok () =>
      (.ok (), { closed := c.closed ++ [false], current := some c.closed.length,
                 database := some s.database, name := some s.database })
    | .error fault =>
      (.error fault, { c with closed := c.closed ++ [true], current := none, database := none })

/-- Closes the connection, if there is one. -/
def close (c : Connection) : Connection :=
  match c.current with
  | none => c
  | some n => { c with closed := c.closed.set n true, current := none, database := none }

/-- The client in use. -/
def client (c : Connection) : Except Fault Nat := c.current.elim (.error noClient) .ok

/-- The database in use. -/
def databaseInUse (c : Connection) : Except Fault String :=
  c.database.elim (.error noDatabase) .ok

/-- The name of the database. -/
def databaseName (c : Connection) : Except Fault String := c.name.elim (.error noDatabase) .ok

/-- A store that refuses the endpoints that say so. -/
def refusing (s : StoreSettings) : Except Fault Unit :=
  if s.endpoint.startsWith "refuse" then .error (.broken "connection refused") else .ok ()

end Connection

end SheetRecall.Service
