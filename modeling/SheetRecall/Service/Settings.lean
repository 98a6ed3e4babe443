import SheetRecall.Entries
import SheetRecall.Fault
import SheetRecall.Memory.Basic
import SheetRecall.Schema.Check

/-!
# Settings

Where the store is, and which models are used.  Settings come from the environment or from a map
of values; only the place of the store has no default.
-/

namespace SheetRecall.Service

/-- The variables of the environment. -/
abbrev Environment := Entries String

/-- Where the store is. -/
structure StoreSettings where
  endpoint : String
  apiKey : Option String := none
  database : String
  deriving Repr, DecidableEq

/-- The settings of the service. -/
structure Settings where
  store : StoreSettings
  embeddingModel : String
  provider : String
  deriving Repr, DecidableEq

/-- The embedding model that is used when none is named. -/
def defaultEmbeddingModel : String := "all-MiniLM-L6-v2"

/-- The provider that is used when none is named. -/
def defaultProvider : String := "gemini"

/-- A variable that must be set and not empty. -/
def needed (env : Environment) (name : String) : Except Fault String :=
  match env.get? name with
  | some value => if value.isEmpty then missing else .ok value
  | none => missing
where
  /-- The variable is missing. -/
  missing : Except Fault String := .error (.unusable (some (name ++ " not found in environment")))

/-- The variable with the key to the store. -/
def apiKeyName : String := "AZURE_COSMOSDB_API_KEY"

namespace StoreSettings

/-- The settings in the environment. -/
def ofEnvironment (env : Environment) : Except Fault StoreSettings := do
  let endpoint ← needed env "AZURE_COSMOSDB_ENDPOINT"
  return { endpoint, apiKey := env.get? apiKeyName,
           database := (env.get? "AZURE_COSMOSDB_DATABASE").getD Memory.defaultDatabase }

/-- The settings in a map. -/
def ofFields (fields : Fields) : Schema.Checked StoreSettings :=
  (Schema.both (Schema.required fields "endpoint" Schema.checkText)
    (Schema.both
      (Schema.orDefault fields "api_key" (Schema.checkOptional Schema.checkText) none)
      (Schema.orDefault fields "database_name" Schema.checkText Memory.defaultDatabase))).map
    fun (endpoint, apiKey, database) => ⟨endpoint, apiKey, database⟩

/-- The settings as a map. -/
def toFields (s : StoreSettings) : Fields :=
  [("endpoint", .text s.endpoint), ("api_key", s.apiKey.elim .null .text),
   ("database_name", .text s.database)]

end StoreSettings

namespace Settings

/-- The settings in the environment. -/
def ofEnvironment (env : Environment) : Except Fault Settings := do
  let store ← StoreSettings.ofEnvironment env
  return { store, embeddingModel := (env.get? "EMBEDDING_MODEL_NAME").getD defaultEmbeddingModel,
           provider := (env.get? "LLM_PROVIDER").getD defaultProvider }

/-- The settings as a map. -/
def toFields (s : Settings) : Fields :=
  [("cosmos", .map s.store.toFields), ("embedding_model", .text s.embeddingModel),
   ("llm_provider", .text s.provider)]

end Settings

end SheetRecall.Service
