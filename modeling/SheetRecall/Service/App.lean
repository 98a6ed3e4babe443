import SheetRecall.Embedding.Embedder
import SheetRecall.Grounding.Script
import SheetRecall.Memory.Fields
import SheetRecall.Memory.Records
import SheetRecall.Memory.Search
import SheetRecall.Service.ChatModel
import SheetRecall.Service.Connection

/-!
# The service

The state of the service and what starting and stopping do to it.  Without a memory the service
still runs; starting puts one in place only if the settings, the connection and the embedding model
are all there.
-/

namespace SheetRecall.Service

/-- A memory and the model that embeds what is searched for. -/
structure Backend where
  memory : Memory
  model : Embedding.Model

/-- The state of the service. -/
structure App where
  env : Environment := []
  settings : Option Settings := none
  connection : Connection := {}
  backend : Option Backend := none
  session : Memory.Session := {}
  /-- The replies that are prepared for the chat model, and what it was asked. -/
  transcript : Grounding.Transcript := {}
  /-- The chat model that was made last. -/
  chatModel : Option ChatModel := none

namespace App

/-- The service with a memory for rows, which counts to embed. -/
def ready (env : Environment) : App :=
  { env, backend := some ⟨.tabular Memory.defaultDatabase true (.int Query.defaultSampleSize),
                          Embedding.Model.counting⟩ }

/-- Connects to the store, which makes the database. -/
def connect (app : App) (s : StoreSettings) : Except Fault Unit × App :=
  match app.connection.connect Connection.refusing s with
  | (.ok (), connection) =>
    let account := app.session.account.createDatabase s.database
    (.ok (), { app with connection, session := { app.session with account } })
  | (.error fault, connection) => (.error fault, { app with connection })

/-- Puts a memory in place, if the embedding model is there. -/
def putBackend (app : App) (s : Settings) : App :=
  match (Embedding.Embedder.load Embedding.Embedder.findCounting s.embeddingModel .null
      Embedding.Embedder.defaultBatchSize).1 with
  | .error _ => app
  | .ok embedder =>
    { app with
      backend := some ⟨.tabular s.store.database true (.int Query.defaultSampleSize),
                       embedder.model⟩
      session := { app.session with sizes := [] } }

/-- Starts the service. -/
def startUp (app : App) : App :=
  match Settings.ofEnvironment app.env with
  | .error _ => app
  | .ok s =>
    match ({ app with settings := some s }).connect s.store with
    | (.error _, app) => app
    | (.ok (), app) => app.putBackend s

/-- Stops the service. -/
def shutDown (app : App) : App := { app with connection := app.connection.close }

/-- A task of the memory. -/
def onSession (task : Task Memory.Session α) : Task App α :=
  task.onPart App.session fun app session => { app with session }

/-- A question for the chat model. -/
def onTranscript (task : Task Grounding.Transcript α) : Task App α :=
  task.onPart App.transcript fun app transcript => { app with transcript }

/-- What grounding in an index needs. -/
def surroundings (memory : Memory) (index : String) : Grounding.Surroundings App where
  index
  catalog := onSession (memory.catalog index)
  topValues kind name limit := onSession (memory.topValues index kind name limit)
  answer prompt := onTranscript (Grounding.Transcript.nextReply prompt)
  report notice app := { app with session := app.session.report [notice] }

end App

end SheetRecall.Service
