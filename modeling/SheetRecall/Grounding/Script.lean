import SheetRecall.Grounding.Run

/-!
# Prepared surroundings

Surroundings that answer from what was prepared: a catalog, the values of its fields, and the
model's replies in order.  They take down everything that they are asked.
-/

namespace SheetRecall.Grounding

/-- A reply of a model, or the failure to give one. -/
abbrev PreparedReply := Except Fault (Option String)

/-- The replies that are left, and what was asked. -/
structure Transcript where
  replies : List PreparedReply := []
  prompts : List Prompt := []
  /-- How often the catalog was asked for. -/
  catalogs : Nat := 0
  /-- The fields whose values were asked for, and how many of them. -/
  valuesAsked : List (Catalog.Kind × String × Value) := []
  notices : List Notice := []

namespace Transcript

/-- Gives the next reply; a model that has none left fails. -/
def nextReply (prompt : Prompt) : Task Transcript (Option String) := do
  let t ← get
  let asked := { t with prompts := t.prompts ++ [prompt] }
  match t.replies with
  | [] =>
    set asked
    throw (.broken "")
  | reply :: replies =>
    set { asked with replies }
    Task.ofExcept reply

end Transcript

/-- Surroundings with a prepared catalog and prepared values. -/
def prepared (index : String) (catalog : Catalog)
    (values : Catalog.Kind → String → Catalog.TopValues) : Surroundings Transcript where
  index
  catalog := do
    modify fun t => { t with catalogs := t.catalogs + 1 }
    return catalog
  topValues kind name limit := do
    modify fun t => { t with valuesAsked := t.valuesAsked ++ [(kind, name, limit)] }
    Task.ofExcept (takeLimited limit (values kind name))
  answer := Transcript.nextReply
  report notice t := { t with notices := t.notices ++ [notice] }

end SheetRecall.Grounding
