import SheetRecall.Document.Decode
import SheetRecall.Query.Discovery
import SheetRecall.Store.Account
import SheetRecall.Task

/-!
# Memories

A memory keeps records in the indexes of one database.  It works in a session: the account behind
it, the vector sizes it has learnt, and the events that it leaves behind for whoever watches.
-/

namespace SheetRecall

/-- How a memory keeps its records. -/
structure Memory where
  /-- The database that holds the indexes. -/
  database : String
  codec : Codec
  /-- Filters address columns by their stored names. -/
  normalize : Bool := true
  /-- How many documents the fields of an index are read from. -/
  sampleSize : Value := .int Query.defaultSampleSize

namespace Memory

/-- The database of a memory that is given none. -/
def defaultDatabase : String := "memory"

/-- A memory for records without rows. -/
def plain (database : String) : Memory := { database, codec := .plain }

/-- A memory for rows. -/
def tabular (database : String) (normalize : Bool) (sampleSize : Value) : Memory :=
  { database, codec := .tabular { normalize }, normalize, sampleSize }

/-- What happens in a session. -/
inductive Event where
  | notice (notice : Notice)
  /-- An index was asked a query. -/
  | asked (index : String) (statement : Query.Statement)
  /-- A container was asked for, with its settings. -/
  | created (settings : Value)

/-- What a memory works on. -/
structure Session where
  account : Store.Account := {}
  /-- The vector sizes that the indexes declare, as far as they were asked for; null for none. -/
  sizes : Entries Value := []
  /-- What has happened, in order. -/
  events : List Event := []

namespace Session

/-- Adds an event. -/
def record (s : Session) (event : Event) : Session := { s with events := s.events ++ [event] }

/-- Adds notices. -/
def report (s : Session) (notices : List Notice) : Session :=
  { s with events := s.events ++ notices.map .notice }

end Session

/-- Reports notices. -/
def report (notices : List Notice) : Task Session Unit := modify fun s => s.report notices

/-- Changes the account, or fails and leaves it. -/
def changeAccount (change : Store.Account → Except Fault Store.Account) : Task Session Unit := do
  let account ← Task.ofExcept (change (← get).account)
  modify fun s => { s with account }

/-- Asks an index a query. -/
def ask (m : Memory) (index : String) (statement : Query.Statement) :
    Task Session Store.Delivery := do
  modify fun s => s.record (.asked index statement)
  return (← get).account.answer m.database index statement.text

end Memory

end SheetRecall
