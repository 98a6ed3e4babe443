import SheetRecall.Prompt.Template

/-!
# Prompts

The three questions that a model is asked: which criteria a user's question holds, which field a
criterion means, and which value of the field.
-/

namespace SheetRecall

/-- What a model is asked for. -/
inductive Prompt.Topic where
  | criteria
  | field
  | value
  deriving Repr, DecidableEq

/-- A question for a model. -/
structure Prompt where
  topic : Prompt.Topic
  values : Fields

namespace Prompt

/-- The word for a topic. -/
def Topic.name : Topic → String
  | criteria => "criteria"
  | field => "field"
  | value => "value"

/-- The question for criteria. -/
def criteriaTemplate : Template :=
  [lines ["",
    "Analyze the user's question about tabular data (like server inventories, logs, etc.)",
    "Identify specific criteria mentioned that could be used for filtering.", "",
    "User question: "],
   .hole "question",
   lines ["", "", "Extract up to "],
   .hole "max_criteria",
   lines [" potential filtering criteria. For each, provide:",
    "1. A hint for the field name (e.g., 'environment', 'status', 'location', 'server type')",
    "2. The specific value mentioned (e.g., 'Production', 'Running', 'East US', 'Database')",
    "3. The type of field you think it is ('tag' or 'data') - default to 'data' if unsure.",
    "4. An importance score (1-5, 5=most important)", "",
    "Return ONLY the JSON array, nothing else. Example:", "[",
    "  \x7b \"fieldType\": \"data\", \"fieldNameHint\": \"environment\", "
      ++ "\"valueHint\": \"Production\", \"importance\": 5 \x7d,",
    "  \x7b \"fieldType\": \"data\", \"fieldNameHint\": \"status\", "
      ++ "\"valueHint\": \"Running\", \"importance\": 3 \x7d",
    "]", "", "If no specific criteria are found, return an empty JSON array [].", "",
    "JSON response:"]]

/-- The question for a field. -/
def fieldTemplate : Template :=
  [lines ["",
    "You are matching a user's filter intent to the most relevant available database field.",
    "", "Available fields:", ""],
   .hole "fields",
   lines ["", "", "User's filter intent: "],
   .hole "field_name_hint",
   lines ["", "", "Analyze the intent and determine the best matching field.",
    "Return ONLY JSON with properties: fieldType ('tag' or 'data'), fieldName (the internal name), "
      ++ "confidence (0-1), reasoning.",
    "If no good match, use fieldName 'none'.", "", "JSON response:"]]

/-- The question for a value. -/
def valueTemplate : Template :=
  [lines ["", "You are matching a user's filter value intent to the most relevant value for a "
      ++ "database field.", "", "Field: "],
   .hole "field_name",
   lines ["", "Available values (with counts):", ""],
   .hole "values",
   lines ["", "", "User's value intent: "],
   .hole "value_hint",
   lines ["", "", "Analyze the intent and determine the best matching value.",
    "Return ONLY JSON with properties: value, confidence (0-1), reasoning.",
    "If no good match, suggest an appropriate value based on the intent.", "", "JSON response:"]]

/-- The template of a topic. -/
def Topic.template : Topic → Template
  | criteria => criteriaTemplate
  | field => fieldTemplate
  | value => valueTemplate

/-- The text of a prompt, if its variables are all given. -/
def text? (prompt : Prompt) : Option String :=
  Template.fill? prompt.topic.template prompt.values

/-- The prompt for the criteria in a question. -/
def forCriteria (question : String) (maxCriteria : Value) : Prompt :=
  ⟨.criteria, [("question", .text question), ("max_criteria", maxCriteria)]⟩

/-- The prompt for the field that a hint means. -/
def forField (fields hint : String) : Prompt :=
  ⟨.field, [("fields", .text fields), ("field_name_hint", .text hint)]⟩

/-- The prompt for the value that a hint means. -/
def forValue (name values hint : String) : Prompt :=
  ⟨.value, [("field_name", .text name), ("values", .text values), ("value_hint", .text hint)]⟩

end Prompt

end SheetRecall
