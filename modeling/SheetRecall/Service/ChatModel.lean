import SheetRecall.Service.Settings

/-!
# Chat models

Which model answers prompts: each provider has a key, a default model and a variable that names
another one.
-/

namespace SheetRecall.Service

/-- Who provides chat models. -/
inductive Provider where
  | gemini
  | groq
  deriving Repr, DecidableEq

/-- A chat model and what it is called with. -/
structure ChatModel where
  provider : Provider
  model : String
  apiKey : String
  temperature : Value

namespace Provider

/-- The provider that a word names. -/
def ofWord? (word : String) : Option Provider :=
  if word = "gemini" then some gemini else if word = "groq" then some groq else none

/-- The variable with the provider's key. -/
def keyName : Provider → String
  | gemini => "GEMINI_API_KEY"
  | groq => "GROQ_API_KEY"

/-- The variable that names a model of the provider. -/
def modelName : Provider → String
  | gemini => "GEMINI_MODEL_NAME"
  | groq => "AGENT_MODEL_NAME"

/-- The model that is used when none is named. -/
def defaultModel : Provider → String
  | gemini => "gemini-2.5-flash"
  | groq => "llama-3.3-70b-versatile"

end Provider

/-- The chat model of a provider. -/
def ChatModel.choose (env : Environment) (provider : String) (temperature : Value) :
    Except Fault ChatModel :=
  match Provider.ofWord? provider with
  | none =>
    .error (.unusable (some ("Unknown provider: " ++ provider ++ ". Must be 'gemini' or 'groq'")))
  | some p => do
    let apiKey ← needed env p.keyName
    return ⟨p, (env.get? p.modelName).getD p.defaultModel, apiKey, temperature⟩

/-- The fields that a chat model is made with. -/
def ChatModel.toFields (m : ChatModel) : Fields :=
  let key := match m.provider with
    | .gemini => "google_api_key"
    | .groq => "groq_api_key"
  [("model", .text m.model), (key, .text m.apiKey), ("temperature", m.temperature)]

end SheetRecall.Service
