import SheetRecall.Grounding.Basic

/-!
# Asking the model

The three questions of a grounding.  Whatever goes wrong with the model or its reply is reported
and answered with nothing: no criteria, no field, or the user's own word with no confidence.
-/

namespace SheetRecall.Grounding

open SheetRecall.Reply

/-! ## Criteria -/

/-- The items of a reply for criteria: a list, or a single object. -/
def criterionItems : Value → Option (List Value)
  | .list items => some items
  | .map fields => some [.map fields]
  | _ => none

/-- What is reported about an item that is no criterion. -/
def malformed (item : Value) : Notice :=
  .warning ("Ignoring malformed filter criterion " ++ String.ofList item.spelled)

/-- The first elements; counted from the end, if the count is negative. -/
def takeUpTo (count : Int) (xs : List α) : List α :=
  if 0 ≤ count then xs.take count.toNat else xs.take (xs.length - (-count).toNat)

/-- The first elements, as many as a value says; null says all. -/
def takeLimited (limit : Value) (xs : List α) : Except Fault (List α) :=
  match limit with
  | .null => .ok xs
  | .int n => .ok (takeUpTo n xs)
  | .bool b => .ok (takeUpTo (if b then 1 else 0) xs)
  | _ => .error .wrongKind

/-- The criteria among items, and what there is to report about the others. -/
def criteriaOf (items : List Value) : List Criterion × List Notice :=
  (items.filterMap fun item => (Criterion.ofValue item).toOption,
   items.filterMap fun item =>
     match Criterion.ofValue item with
     | .ok _ => none
     | .error _ => some (malformed item))

/-- The items in the JSON of a reply, or what there is to report instead. -/
def readItems (json : String) : Except Notice (List Value) :=
  match Json.read .lenient json with
  | .error (.malformed _) => .error (.error "Error parsing filter criteria from LLM")
  | .error _ => .error (.error "Error identifying filter criteria")
  | .ok v =>
    match criterionItems v with
    | none => .error (.error "Filter criteria response is not a JSON array")
    | some items => .ok items

/-- Asks for the criteria in a question. -/
def askCriteria (env : Surroundings σ) (t : Thresholds) (question : String) :
    Task σ (List Criterion) := do
  match ← env.jsonReply? (.forCriteria question t.maxCriteria) with
  | none =>
    env.say (.error "Error identifying filter criteria")
    return []
  | some json =>
    match readItems json with
    | .error notice =>
      env.say notice
      return []
    | .ok items =>
      let (criteria, notices) := criteriaOf items
      notices.forM env.say
      Task.ofExcept (takeLimited t.maxCriteria criteria)

/-! ## Fields -/

/-- Asks for the field that a hint means. -/
def askField (env : Surroundings σ) (catalog : Catalog) (hint : String) : Task σ FieldMatch := do
  match ← env.jsonReply? (.forField catalog.describe hint) with
  | none =>
    env.say (.error ("Error matching field '" ++ hint ++ "'"))
    return .none
  | some json =>
    match readMatch FieldMatch.ofValue json with
    | .ok found => return found
    | .error _ =>
      env.say (.error "Error parsing field match response")
      return .none

/-! ## Values -/

/-- The confidence in a hint when the field has no known values. -/
def unverified : Float := 0.5

/-- Asks for the value that a hint means; without known values the hint itself is taken. -/
def askValue (env : Surroundings σ) (name : String) (values : Catalog.TopValues)
    (hint : String) : Task σ ValueMatch := do
  if values.isEmpty then return ⟨hint, unverified, ""⟩
  match ← env.jsonReply? (.forValue name (Catalog.describeValues values) hint) with
  | none =>
    env.say (.error ("Error matching value '" ++ hint ++ "' for field '" ++ name ++ "'"))
    return ⟨hint, 0.0, ""⟩
  | some json =>
    match readMatch ValueMatch.ofValue json with
    | .ok found => return found
    | .error _ =>
      env.say (.error "Error parsing value match response")
      return ⟨hint, 0.0, ""⟩

end SheetRecall.Grounding
