import SheetRecall.Grounding.Matching

/-!
# Grounding a question

The criteria of a question are taken in the order of their importance.  Each is confirmed against
the catalog and the values of its field, and becomes a pair of the filter; one that cannot be
confirmed is skipped.  A decisive match ends the work.
-/

namespace SheetRecall.Grounding

open SheetRecall.Reply

/-- The confidence is below a threshold. -/
def isBelow (confidence : Float) (threshold : Value) : Except Fault Bool := do
  return (Number.float confidence).lt (← threshold.toNumber)

/-- The kind and the catalog's spelling of a matched field; the kind that the model names is tried
first. -/
def locate? (catalog : Catalog) (found : FieldMatch) : Option (Catalog.Kind × String) :=
  let preferred := Catalog.Kind.ofWord found.kind
  [preferred, preferred.other].findSome? fun kind =>
    (catalog.find? kind found.name).map fun name => (kind, name)

/-- The field that a model found, if it is known and the model is confident enough. -/
def acceptField (isBelow : Bool) (catalog : Catalog) (found : FieldMatch) :
    Except Notice (Catalog.Kind × String) :=
  if isBelow || found.name = noField then
    .error (.warning "Field match confidence too low. Skipping criterion.")
  else
    match locate? catalog found with
    | some field => .ok field
    | none =>
      .error (.warning ("Field '" ++ found.name ++ "' is not a known field. Skipping criterion."))

/-- Confirms a criterion. -/
def ground (env : Surroundings σ) (t : Thresholds) (c : Criterion) : Task σ (Option Applied) := do
  let catalog ← env.catalog
  if catalog.isEmpty then
    env.say (.warning ("No known fields in index " ++ env.index ++ ". Skipping criterion '"
      ++ c.hint ++ "'."))
    return none
  let found ← askField env catalog c.hint
  let tooLow ← Task.ofExcept (isBelow found.confidence t.confident)
  match acceptField tooLow catalog found with
  | .error notice =>
    env.say notice
    return none
  | .ok (kind, name) =>
    let values ← env.topValues kind name t.maxValues
    let value ← askValue env name values c.valueHint
    if ← Task.ofExcept (isBelow value.confidence t.confident) then
      env.say (.warning "Value match confidence too low. Skipping criterion.")
      return none
    return some ⟨kind, name, value.value, c.importance, found.confidence, value.confidence⟩

/-- Confirms criteria one after the other, until a decisive one. -/
def groundAll (env : Surroundings σ) (t : Thresholds) :
    List Criterion → Task σ (List Applied × Bool)
  | [] => return ([], false)
  | c :: rest => do
    match ← ground env t c with
    | none => groundAll env t rest
    | some applied =>
      if ← Task.ofExcept (applied.isDecisive t) then return ([applied], true)
      else
        let (more, stopped) ← groundAll env t rest
        return (applied :: more, stopped)

/-- The criteria, most important first. -/
def byImportance (criteria : List Criterion) : List Criterion :=
  criteria.mergeSort fun a b => b.importance ≤ a.importance

/-- The filter of applied criteria. -/
def filterOf (applied : List Applied) : Filter :=
  .ofPairs (applied.map fun a => (a.key, .text a.value))

/-- The filter as maps, if it asks for anything. -/
def filtersOf (applied : List Applied) : List Fields :=
  let filter := filterOf applied
  if filter.isEmpty then [] else [filter.toMap]

/-- Grounds a question. -/
def run (env : Surroundings σ) (t : Thresholds) (question : String) : Task σ Result := do
  let criteria ← askCriteria env t question
  let (applied, stoppedEarly) ← groundAll env t (byImportance criteria)
  return { question, criteria, applied, filters := filtersOf applied, stoppedEarly }

/-- The filters of a result, as a search takes them. -/
def Result.searchFilters (r : Result) : List Filter := r.filters.map Filter.ofMap

/-- Grounds a question and searches with the filters that come of it. -/
def runAndSearch (env : Surroundings σ) (t : Thresholds) (search : List Filter → Task σ α)
    (question : String) : Task σ (α × Result) := do
  let result ← run env t question
  return (← search result.searchFilters, result)

end SheetRecall.Grounding
