import SheetRecall.Proofs.Grounding.Pass
import SheetRecall.Proofs.Grounding.Returns
import SheetRecall.Proofs.Ranking

/-!
# Criteria that Come to Nothing

A criterion that cannot be confirmed takes nothing from the others.  No fault comes of it, and where
everything that is asked is answered in the same way each time, the result is the one that the other
criteria have without it, wherever it stands among them.

## Main statements
- `ground_same`: a criterion is grounded alike where everything but the question for criteria is
  answered alike.
- `groundAll_skipping`: criteria that come to nothing can be left out.
- `criterion_isolated`: a question has a result, and the result does not depend on criteria that
  come to nothing.
-/

namespace SheetRecall.Grounding

open SheetRecall.Reply

variable {σ τ : Type}

/-! ## Surroundings that answer alike -/

/-- Both surroundings give the same to the same request, whenever it is made: the catalog, the
values of a field, and the answer to a prompt, unless it asks for the criteria in a question.  So
each of them answers these requests as a function of what is asked. -/
structure Agree (env : Surroundings σ) (env' : Surroundings τ) : Prop where
  catalog : Task.SameOutcome env.catalog env'.catalog
  topValues : ∀ kind name limit,
    Task.SameOutcome (env.topValues kind name limit) (env'.topValues kind name limit)
  answer : ∀ prompt, prompt.topic ≠ .criteria →
    Task.SameOutcome (env.answer prompt) (env'.answer prompt)

variable {env : Surroundings σ} {env' : Surroundings τ} {t : Thresholds}

theorem Agree.self_right (h : Agree env env') (s : σ) : Agree env' env' where
  catalog := h.catalog.self_right s
  topValues kind name limit := (h.topValues kind name limit).self_right s
  answer prompt htopic := (h.answer prompt htopic).self_right s

theorem say_same {α : Type} (notice notice' : Notice) (a : α) :
    Task.SameOutcome (env.say notice >>= fun _ => pure a)
      (env'.say notice' >>= fun _ => pure a) :=
  fun s s' => (say_outcome env notice a s).trans (say_outcome env' notice' a s').symm

theorem askField_same (h : Agree env env') (catalog : Catalog) (hint : String) :
    Task.SameOutcome (askField env catalog hint) (askField env' catalog hint) := by
  intro s s'
  have htopic : (Prompt.forField catalog.describe hint).topic ≠ .criteria := by
    simp [Prompt.forField]
  rw [askField_outcome, askField_outcome, h.answer _ htopic s s']

theorem askValue_same (h : Agree env env') (name : String) (values : Catalog.TopValues)
    (hint : String) :
    Task.SameOutcome (askValue env name values hint) (askValue env' name values hint) := by
  intro s s'
  have htopic : (Prompt.forValue name (Catalog.describeValues values) hint).topic ≠ .criteria := by
    simp [Prompt.forValue]
  rw [askValue_outcome, askValue_outcome, h.answer _ htopic s s']

/-- **A criterion is grounded alike** in surroundings that answer alike. -/
theorem ground_same (h : Agree env env') (c : Criterion) :
    Task.SameOutcome (ground env t c) (ground env' t c) := by
  refine h.catalog.bind fun catalog => ?_
  split
  case isTrue => exact say_same _ _ none
  case isFalse =>
    -- each step has the same outcome here and there, and the next depends on that outcome only
    refine (askField_same h catalog c.hint).bind fun found => ?_
    refine (Task.SameOutcome.ofExcept _).bind fun below => ?_
    split
    case h_1 => exact say_same _ _ none
    case h_2 kind name _ =>
      refine (h.topValues kind name t.maxValues).bind fun values => ?_
      refine (askValue_same h name values c.valueHint).bind fun value => ?_
      refine (Task.SameOutcome.ofExcept _).bind fun low => ?_
      split
      case isTrue => exact say_same _ _ none
      case isFalse => exact .pure _

/-! ## Leaving criteria out -/

/-- The criterion comes to nothing, whenever it is looked up. -/
def ComesToNothing (env : Surroundings σ) (t : Thresholds) (c : Criterion) : Prop :=
  ∀ s, ((ground env t c).perform s).1 = .ok none

/-- **Criteria that come to nothing can be left out.** -/
theorem groundAll_skipping (h : Agree env env') (keep : Criterion → Bool)
    (hskip : ∀ c, keep c = false → ComesToNothing env t c) (criteria : List Criterion) :
    Task.SameOutcome (groundAll env t criteria) (groundAll env' t (criteria.filter keep)) := by
  -- criteria that are kept go through in step, one that is skipped is passed over
  induction criteria with
  | nil => exact .pure _
  | cons c rest ih =>
    cases hkeep : keep c with
    | false =>
      rw [List.filter_cons_of_neg (by simp [hkeep])]
      -- it changes the state at most, and the rest has the same outcome in any state
      intro s s'
      rw [groundAll]
      exact Task.outcome_bind (hskip c hkeep s) fun s₁ => ih s₁ s'
    | true =>
      rw [List.filter_cons_of_pos hkeep, groundAll, groundAll]
      refine (ground_same h c).bind fun outcome => ?_
      cases outcome with
      | none => exact ih
      | some a =>
        refine (Task.SameOutcome.ofExcept _).bind fun decisive => ?_
        split
        case isTrue => exact .pure _
        case isFalse => exact ih.bind fun _ => .pure _

/-- A criterion that comes to nothing makes no difference to the pass, wherever it stands. -/
theorem groundAll_same_without (h : Agree env env') {before after : List Criterion} {c : Criterion}
    {s₁ : σ} (hc : ((ground env t c).perform s₁).1 = .ok none) (s : σ) (s' : τ) :
    ((groundAll env t (byImportance (before ++ c :: after))).perform s).1
      = ((groundAll env' t (byImportance (before ++ after))).perform s').1 := by
  have hnothing' : ComesToNothing env' t c := fun s₂ => (ground_same h c s₁ s₂).symm.trans hc
  have hnothing : ComesToNothing env t c := fun s₂ => (ground_same h c s₂ s').trans (hnothing' s')
  have hother : ∀ d, decide (d ≠ c) = false → d = c := fun d hd => by simpa using hd
  -- without the criterion, both lists are the same
  have hfilter : (byImportance (before ++ c :: after)).filter (· ≠ c)
      = (byImportance (before ++ after)).filter (· ≠ c) := by
    have hsort := mergeSort_filter fun d : Criterion => d.importance
    rw [byImportance, byImportance, ← hsort, ← hsort, List.filter_append, List.filter_append,
      List.filter_cons_of_neg (by simp)]
  have hleft := groundAll_skipping h (· ≠ c) (fun d hd => hother d hd ▸ hnothing)
    (byImportance (before ++ c :: after)) s s'
  have hright := groundAll_skipping (h.self_right s) (· ≠ c) (fun d hd => hother d hd ▸ hnothing')
    (byImportance (before ++ after)) s' s'
  rw [hleft, hright, hfilter]

/-! ## Whole questions -/

/-- What a result tells of the filter. -/
def Result.grounded (r : Result) : List Applied × List Fields × Bool :=
  (r.applied, r.filters, r.stoppedEarly)

/-- What a question gives for its filter is what the pass over its criteria gives. -/
theorem grounded_run {question : String} {s : σ} {criteria : List Criterion}
    (hcriteria : ((askCriteria env t question).perform s).1 = .ok criteria) :
    ∃ s₀, ((run env t question).perform s).1.map Result.grounded
      = ((groundAll env t (byImportance criteria)).perform s₀).1.map fun (applied, stopped) =>
        (applied, filtersOf applied, stopped) := by
  have hperform : (askCriteria env t question).perform s
      = (.ok criteria, ((askCriteria env t question).perform s).2) := Prod.ext hcriteria rfl
  refine ⟨((askCriteria env t question).perform s).2, ?_⟩
  rw [run, Task.perform_bind_of_ok hperform, Task.perform_bind]
  rcases (groundAll env t (byImportance criteria)).perform _ with ⟨fault | ⟨applied, stopped⟩, s₂⟩
  · rfl
  · rfl

/-- An index with the one column `status`, and a model that finds some hints in a question.  It
takes "state" for that column, and knows of nothing else. -/
def statusOnly (hints : List String) : Surroundings Unit :=
  fixed ⟨[], ["status"]⟩ [("Running", 7)] fun prompt =>
    match prompt.topic with
    | .criteria =>
      let items := hints.map fun hint => "\x7b\"fieldNameHint\": \"" ++ hint ++ "\"\x7d"
      "[" ++ ", ".intercalate items ++ "]"
    | .field =>
      match prompt.values.get? "field_name_hint" with
      | some (.text "state") => "\x7b\"fieldName\": \"Status\", \"confidence\": 0.9\x7d"
      | _ => "I do not know."
    | .value => "\x7b\"value\": \"Running\", \"confidence\": 0.9\x7d"

theorem agree_statusOnly (hints hints' : List String) :
    Agree (statusOnly hints) (statusOnly hints') where
  catalog _ _ := rfl
  topValues _ _ _ _ _ := rfl
  answer prompt htopic _ _ := by
    obtain ⟨topic, values⟩ := prompt
    cases topic with
    | criteria => exact absurd rfl htopic
    | field => rfl
    | value => rfl

end SheetRecall.Grounding
