import SheetRecall.Fault
import SheetRecall.Notice
import SheetRecall.Value.Display

/-!
# Embedding texts

A model turns texts into vectors, batch by batch.  An embedder knows its model and how large a
batch is; a text that is not there is embedded like the empty one, so that vectors and texts stay
in step.
-/

namespace SheetRecall.Embedding

/-- A model that turns texts into vectors. -/
structure Model where
  /-- The length of every vector. -/
  dimension : Nat
  vector : String → List Float

/-- A model that counts: the characters of a text, the letters `e` in it, and one. -/
def Model.counting : Model where
  dimension := 3
  vector text :=
    [Float.ofNat text.length, Float.ofNat (text.toList.filter (· = 'e')).length, 1.0]

/-- A model and how it is called. -/
structure Embedder where
  modelName : String
  device : Value := .null
  batchSize : Value
  model : Model

/-- What a model is called with. -/
structure Call where
  texts : List String
  batchSize : Value

namespace Embedder

/-- How many texts go into a batch when nobody says. -/
def defaultBatchSize : Value := .int 32

/-- Loads a model by name; `find` gives the model or the reason why there is none. -/
def load (find : String → Except Fault Model) (modelName : String) (device batchSize : Value) :
    Except Fault Embedder × List Notice :=
  match find modelName with
  | .ok model => (.ok ⟨modelName, device, batchSize, model⟩, [])
  | .error fault =>
    (.error fault, [.error ("Failed to load embedding model " ++ modelName ++ ": "
      ++ fault.message?.getD "")])

/-- The counting model under any name but those that start with `bad`. -/
def findCounting (modelName : String) : Except Fault Model :=
  if modelName.startsWith "bad" then .error (.noModel "no such model") else .ok Model.counting

/-- The text that is embedded for a value. -/
def textOf (v : Value) : String := if v.isVoid then "" else v.display

/-- The call of the model for texts; for no texts the model is not called. -/
def callFor (e : Embedder) (texts : List Value) (batchSize : Value) : Option Call :=
  if texts.isEmpty then none
  else some ⟨texts.map textOf, if batchSize.isVoid then e.batchSize else batchSize⟩

/-- The vectors of texts, in their order. -/
def embedAll (e : Embedder) (texts : List Value) : List (List Float) :=
  texts.map fun text => e.model.vector (textOf text)

/-- The vector of one text. -/
def embed (e : Embedder) (text : String) : List Float := e.model.vector (textOf (.text text))

end Embedder

end SheetRecall.Embedding
