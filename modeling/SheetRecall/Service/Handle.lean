import SheetRecall.Service.App
import SheetRecall.Service.Endpoint

/-!
# Handling requests

What the service does for each endpoint.  A request that cannot be read is refused first, then one
that needs a memory when there is none, then one that does not pass its checks.
-/

namespace SheetRecall.Service

open Schema

/-! ## Checks -/

/-- A text in a search request, a bound on relevance and a bound on the number of results. -/
structure SearchBounds where
  minRelevance : Float
  limit : Int

/-- A search request. -/
structure SearchRequest where
  text : String
  filters : List Filter
  bounds : SearchBounds
  withVectors : Bool

/-- A question in words. -/
structure AskRequest where
  question : String
  provider : Option String
  bounds : SearchBounds

/-- A number between two bounds. -/
def between (low high : Int) (v : Value) : Checked Int :=
  atLeast (.int low) Number.int (atMost (.int high) Number.int (checkInt v))

/-- The least relevance: a double from 0 to 1. -/
def checkRelevance (v : Value) : Checked Float :=
  atLeast (.float 0.0) Number.float (atMost (.float 1.0) Number.float (checkFloat v))

/-- The least relevance that is asked for. -/
def relevanceIn (fields : Fields) : Checked Float :=
  orDefault fields "min_relevance" checkRelevance 0.0

/-- How many results are asked for. -/
def limitIn (fields : Fields) : Checked Int := orDefault fields "limit" (between 1 100) 5

/-- The map that a filter comes as. -/
def checkClause (v : Value) : Checked Fields := do
  let fields ← checkMap checkAny v
  match (Entries.names fields).filter fun key => !Text.isWhole key with
  | [] => .ok fields
  | keys => .error (keys.map fun key => ⟨.brokenText, [.field key, .field "[key]"]⟩)

/-- The filters that are asked for; none if they are null.  A text of JSON writes every double that
is no number alike, so such values are equal to each other. -/
def filtersIn (fields : Fields) : Checked (List Filter) :=
  (orDefault fields "filters" (checkOptional (checkList checkClause)) none).map
    fun filters => (filters.getD []).map (Filter.ofMapBy Value.alike)

/-- The search request in the fields of a body. -/
def SearchRequest.ofFields (fields : Fields) : Checked SearchRequest :=
  (both (required fields "query" (unbroken checkText))
    (both (filtersIn fields)
      (both (relevanceIn fields)
        (both (limitIn fields) (orDefault fields "with_embeddings" checkBool false))))).map
    fun (text, filters, minRelevance, limit, withVectors) =>
      ⟨text, filters, ⟨minRelevance, limit⟩, withVectors⟩

/-- The question in the fields of a body. -/
def AskRequest.ofFields (fields : Fields) : Checked AskRequest :=
  (both (required fields "question" (unbroken checkText))
    (both (orDefault fields "provider" (checkOptional (unbroken checkText)) none)
      (both (relevanceIn fields) (limitIn fields)))).map
    fun (question, provider, minRelevance, limit) => ⟨question, provider, ⟨minRelevance, limit⟩⟩

/-- A query parameter that passes a check, if it is there. -/
def checkParameter (r : Request) (name : String) (check : Value → Checked α) :
    Except Response (Option α) :=
  match r.parameter? name with
  | none => .ok none
  | some text =>
    match under (.field "query") (under (.field name) (check (.text text))) with
    | .ok a => .ok (some a)
    | .error issues => .error (.invalid issues)

/-! ## Answers -/

/-- A positive answer. -/
def ok (fields : Fields) : Response := .answer 200 (.map fields)

/-- A record that was found, as it is answered. -/
def hitValue (hit : Record × Float) : Value :=
  .map [("id", .text hit.1.id), ("relevance", .float hit.2),
    ("tags", Record.tagsValue hit.1.tags), ("payload", .map hit.1.payload)]

/-- A criterion as it is answered. -/
def criterionValue (c : Reply.Criterion) : Value :=
  .map [("fieldType", .text c.kind), ("fieldNameHint", .text c.hint),
    ("valueHint", .text c.valueHint), ("importance", .int c.importance)]

/-- A grounding as it is answered. -/
def groundingValue (r : Grounding.Result) : Value :=
  .map (r.toFields.put "criteria" (.list (r.criteria.map criterionValue)))

/-- The payload of a record can be answered. -/
def isShallow (record : Record) : Bool :=
  record.payload.all fun field => nesting field.2 ≤ maxNesting

/-- The answer to a search. -/
def found (hits : List (Record × Float)) (grounding : Value) : Except Fault Response :=
  if hits.all fun hit => isShallow hit.1 then
    .ok (.answer 200 (withNulls
      (.map [("results", .list (hits.map hitValue)), ("grounding", grounding)])))
  else .error .deepAnswer

/-- The records that a search finds; a search that breaks off finds none. -/
def searchAll (b : Backend) (index text : String) (filters : List Filter) (bounds : SearchBounds)
    (withVectors : Bool) : Task App (List (Record × Float)) := do
  let reading ← App.onSession
    (b.memory.search index (.ok (b.model.vector text)) filters (.float bounds.minRelevance)
      (.int bounds.limit) withVectors none)
  match reading.ending with
  | .failed fault => throw fault
  | _ => return reading.items

/-! ## Indexes -/

/-- Makes an index; without a size the vectors are as long as those of the model. -/
def createIndex (b : Backend) (r : Request) (index : String) : Task App Response := do
  match checkParameter r "vector_size"
      (fun v => atLeast (.int 1) Number.int (checkInt v)) with
  | .error response => return response
  | .ok size =>
    let size := size.getD b.model.dimension
    App.onSession (b.memory.createIndex index (.int size))
    return .answer 201 (.map [("index", .text index), ("vector_size", .int size)])

/-- The most frequent values of a field. -/
def answerValues (b : Backend) (r : Request) (index kind name : String) : Task App Response := do
  match checkParameter r "limit" (between 1 100) with
  | .error response => return response
  | .ok limit =>
    unless ["tag", "tags", "data"].contains (Text.lower kind) do
      return .refusal 400 ("Unknown field type: " ++ kind ++ ". Must be 'tag' or 'data'")
    let kind := Catalog.Kind.ofWord kind
    let values ← App.onSession
      (b.memory.topValues index kind name (limit.elim Query.defaultTopValues .int))
    return ok [("field_type", .text kind.name), ("field_name", .text name),
      ("values", .list (values.map fun (value, count) =>
        .map [("value", .text value), ("count", .int count)]))]

/-! ## Import -/

/-- The last name in a path. -/
def fileName (path : String) : List Char :=
  (((Text.splitOn '/' path.toList).filter fun part => part ≠ [] && part ≠ ['.']).getLast?).getD []

/-- The end of a file's name from its last point on, unless the point is its first or last
character. -/
def suffix (path : String) : String :=
  let name := fileName path
  let tail := (name.reverse.takeWhile (· ≠ '.')).reverse
  if tail.isEmpty || name.length ≤ tail.length + 1 then "" else String.ofList ('.' :: tail)

/-- The id of a file that comes without one. -/
def madeUpFileId : String := String.ofList (List.replicate 32 '0')

/-- Writes chunks as records, until one does not fit. -/
def storeChunks (b : Backend) (index fileId : String) :
    List Workbook.Chunk → Task App (Option String)
  | [] => return none
  | chunk :: rest => do
    let record := chunk.toRecord fileId (b.model.vector chunk.text) [] {}
    match ← (App.onSession (b.memory.upsert index record)).outcome with
    | .ok _ => storeChunks b index fileId rest
    | .error (.unusable message) => return some (message.getD "")
    | .error (.noInteger cause) => return some cause.wording
    | .error fault => throw fault

/-- Imports a file that has come. -/
def importUpload (b : Backend) (index : String) (fileId : Option String) (upload : Upload) :
    Task App Response := do
  if upload.name.isEmpty then return .refusal 400 "Filename is required"
  let extension := Text.lower (suffix upload.name)
  if extension ≠ ".xlsx" then
    return .refusal 400 ("Unsupported file format: " ++ extension ++ ". Supported: .xlsx")
  if upload.file.isEmpty then return .refusal 400 "Uploaded file is empty"
  match Workbook.decode {} upload.file with
  | .error fault => return .refusal 400 ("Error reading workbook: " ++ fault.wording)
  | .ok chunks =>
    let given := fileId.getD ""
    let fileId := if given.isEmpty then madeUpFileId else given
    match ← storeChunks b index fileId chunks with
    | some message => return .refusal 400 message
    | none =>
      return ok [("index", .text index), ("file_id", .text fileId),
        ("filename", .text upload.name), ("rows", .int chunks.length)]

/-- Imports a file, one record for each row.  An empty text is as good as no part at all; what is
wrong with any other text cannot be told. -/
def importFile (b : Backend) (r : Request) (index : String) : Task App Response :=
  match r.filePart with
  | some (.file upload) => importUpload b index r.fileId upload
  | some (.text false) => return .failed .wrongKind
  | _ => return .invalid [⟨.absent, [bodyStep, .field "file"]⟩]

/-! ## Searching -/

/-- Searches with the filters of a request. -/
def search (b : Backend) (r : Request) (index : String) : Task App Response := do
  match checkBody SearchRequest.ofFields r.body with
  | .error response => return response
  | .ok s =>
    let hits ← searchAll b index s.text s.filters s.bounds s.withVectors
    Task.ofExcept (found hits .null)

/-- The chat model of a request: the provider that is asked for, or that of the settings. -/
def chooseModel (provider : Option String) : Task App ChatModel := do
  let app ← get
  let usual := (app.settings.map (·.provider)).getD defaultProvider
  let asked := provider.getD ""
  let model ← Task.ofExcept
    (ChatModel.choose app.env (if asked.isEmpty then usual else asked) (.float 0.0))
  set { app with chatModel := some model }
  return model

/-- Answers a question in words: grounds it in the index, and searches with what comes of it. -/
def ask (b : Backend) (r : Request) (index : String) : Task App Response := do
  match checkBody AskRequest.ofFields r.body with
  | .error response => return response
  | .ok q =>
    match ← (chooseModel q.provider).outcome with
    | .error fault =>
      return .refusal 503 ("LLM not available: " ++ fault.message?.getD "")
    | .ok _ =>
      let (hits, grounding) ← Grounding.runAndSearch (App.surroundings b.memory index) {}
        (fun filters => searchAll b index q.question filters q.bounds false) q.question
      Task.ofExcept (found hits (groundingValue grounding))

/-! ## Requests -/

/-- What is answered when there is no memory. -/
def noMemory : Response :=
  .refusal 503 "Tabular memory not available. Check Cosmos DB configuration."

/-- Does what an endpoint needs a memory for. -/
def serveWith (b : Backend) (r : Request) : Endpoint → Task App Response
  | .listIndexes => do
    return ok [("indexes", .list (← App.onSession b.memory.indexes))]
  | .createIndex index => createIndex b r index
  | .deleteIndex index => do
    App.onSession (b.memory.deleteIndex index)
    return ok [("index", .text index), ("deleted", .bool true)]
  | .importFile index => importFile b r index
  | .fields index => do
    let catalog ← App.onSession (b.memory.catalog index)
    return ok catalog.toFields
  | .values index kind name => answerValues b r index kind name
  | .search index => search b r index
  | .ask index => ask b r index
  | _ => return .refusal 404 "Not Found"

/-- Does what an endpoint asks for. -/
def serve (r : Request) (now : String) : Endpoint → Task App Response
  | .root => return ok [("message", .text "Tabular Memory API"), ("status", .text "running")]
  | .health => do
    return ok [("status", .text "healthy"),
      ("memory_available", .bool (← get).backend.isSome), ("timestamp", .text now)]
  | endpoint => do
    match (← get).backend with
    | none => return noMemory
    | some b => serveWith b r endpoint

/-- The refusal of a body that cannot be read. -/
def unreadBody? : Body → Option Response
  | .malformed position => some (.invalid [⟨.noJson, [bodyStep, .item position]⟩])
  | .unreadable => some (.refusal 400 "There was an error parsing the body")
  | _ => none

/-- Handles a request; `now` is the time that is told. -/
def App.handle (app : App) (r : Request) (now : String) : Response × App :=
  match Endpoint.ofRequest r with
  | .error response => (response, app)
  | .ok endpoint =>
    match (if endpoint.readsBody then unreadBody? r.body else none) with
    | some response => (response, app)
    | none =>
      match (serve r now endpoint).perform app with
      | (.ok response, app) => (response.written, app)
      | (.error fault, app) => (.failed fault, app)

end SheetRecall.Service
