import SheetRecall.Grounding.Matching
import SheetRecall.Proofs.Task

/-!
# What Asking Gives

What a question to the model gives is a function of the answer to its prompt.  An answer that
cannot be read, no answer at all and a failure of the model are each reported, and stand for
nothing found.

## Main statements
`askCriteria_outcome`, `askField_outcome`, `askValue_outcome`: the outcome of each question, from
the outcome of the answer.
-/

namespace SheetRecall.Grounding

open SheetRecall.Reply

variable {σ : Type} (env : Surroundings σ)

/-! ## Answers -/

/-- The JSON in the answer of the model, if there is one. -/
def jsonIn (answer : Except Fault (Option String)) : Option String := answer.toOption.map jsonText

/-- The criteria in an answer. -/
def criteriaIn (t : Thresholds) (answer : Except Fault (Option String)) :
    Except Fault (List Criterion) :=
  match (jsonIn answer).bind fun json => (readItems json).toOption with
  | none => .ok []
  | some items => takeLimited t.maxCriteria (criteriaOf items).1

/-- The field in an answer. -/
def fieldIn (answer : Except Fault (Option String)) : FieldMatch :=
  ((jsonIn answer).bind fun json => (readMatch FieldMatch.ofValue json).toOption).getD .none

/-- The value in an answer to a question about a hint. -/
def valueIn (hint : String) (answer : Except Fault (Option String)) : ValueMatch :=
  ((jsonIn answer).bind fun json => (readMatch ValueMatch.ofValue json).toOption).getD
    ⟨hint, 0.0, ""⟩

/-- Surroundings with a fixed catalog, the same values for every field, and fixed answers. -/
def fixed (catalog : Catalog) (values : Catalog.TopValues) (answer : Prompt → String) :
    Surroundings Unit where
  index := ""
  catalog := pure catalog
  topValues _ _ _ := pure values
  answer prompt := pure (some (answer prompt))
  report _ s := s

/-! ## Reporting -/

theorem forM_say_outcome (notices : List Notice) (s : σ) :
    ((notices.forM env.say).perform s).1 = .ok ⟨⟩ := by
  induction notices generalizing s with
  | nil => rfl
  | cons notice rest ih => exact Task.outcome_bind (a := ⟨⟩) rfl ih

/-- A report with what stands for nothing found has that as its outcome. -/
theorem say_outcome {α : Type} (notice : Notice) (a : α) (s : σ) :
    ((env.say notice >>= fun _ => pure a : Task σ α).perform s).1 = .ok a :=
  Task.outcome_bind (a := ⟨⟩) rfl fun _ => rfl

/-! ## Questions -/

theorem jsonReply?_outcome (prompt : Prompt) (s : σ) :
    ((env.jsonReply? prompt).perform s).1 = .ok (jsonIn ((env.answer prompt).perform s).1) := by
  refine Task.outcome_bind (a := ((env.answer prompt).perform s).1) rfl fun s₁ => ?_
  cases ((env.answer prompt).perform s).1 with
  | error fault => rfl
  | ok reply => rfl

theorem askCriteria_outcome (t : Thresholds) (question : String) (s : σ) :
    ((askCriteria env t question).perform s).1
      = criteriaIn t ((env.answer (.forCriteria question t.maxCriteria)).perform s).1 := by
  refine Task.outcome_bind (jsonReply?_outcome env _ s) fun s₁ => ?_
  unfold criteriaIn
  cases jsonIn ((env.answer (.forCriteria question t.maxCriteria)).perform s).1 with
  | none => exact say_outcome env _ [] s₁
  | some json =>
    dsimp only [Option.bind_some]
    cases readItems json with
    | error notice => exact say_outcome env notice [] s₁
    | ok items => exact Task.outcome_bind (forM_say_outcome env _ s₁) fun _ => rfl

theorem askField_outcome (catalog : Catalog) (hint : String) (s : σ) :
    ((askField env catalog hint).perform s).1
      = .ok (fieldIn ((env.answer (.forField catalog.describe hint)).perform s).1) := by
  refine Task.outcome_bind (jsonReply?_outcome env _ s) fun s₁ => ?_
  unfold fieldIn
  cases jsonIn ((env.answer (.forField catalog.describe hint)).perform s).1 with
  | none => exact say_outcome env _ _ s₁
  | some json =>
    dsimp only [Option.bind_some]
    cases readMatch FieldMatch.ofValue json with
    | error issues => exact say_outcome env _ _ s₁
    | ok found => rfl

theorem askValue_outcome (name : String) (values : Catalog.TopValues) (hint : String) (s : σ) :
    ((askValue env name values hint).perform s).1
      = .ok (if values.isEmpty then ⟨hint, unverified, ""⟩
        else valueIn hint
          ((env.answer (.forValue name (Catalog.describeValues values) hint)).perform s).1) := by
  unfold askValue
  split
  case isTrue => rfl
  case isFalse =>
    -- only the answer counts, and what is said on the way changes the state alone
    refine Task.outcome_bind (jsonReply?_outcome env _ s) fun s₁ => ?_
    unfold valueIn
    cases jsonIn ((env.answer (.forValue name (Catalog.describeValues values) hint)).perform s).1
      with
    | none => exact say_outcome env _ _ s₁
    | some json =>
      dsimp only [Option.bind_some]
      cases readMatch ValueMatch.ofValue json with
      | error issues => exact say_outcome env _ _ s₁
      | ok found => rfl

/-- A field that was found stands in the JSON of a reply. -/
theorem exists_reply_of_fieldIn {answer : Except Fault (Option String)}
    (h : (fieldIn answer).name ≠ noField) :
    ∃ reply, answer = .ok reply
      ∧ readMatch FieldMatch.ofValue (jsonText reply) = .ok (fieldIn answer) := by
  cases answer with
  | error fault => exact absurd rfl h
  | ok reply =>
    refine ⟨reply, rfl, ?_⟩
    cases hread : readMatch FieldMatch.ofValue (jsonText reply) with
    | error issues =>
      -- an unreadable reply stands for no field
      have hnone : fieldIn (.ok reply) = .none := by
        simp [fieldIn, jsonIn, Except.toOption, hread]
      exact absurd (congrArg FieldMatch.name hnone) h
    | ok found => simp [fieldIn, jsonIn, Except.toOption, hread]

end SheetRecall.Grounding
