import SheetRecall.Grounding.Run
import SheetRecall.Proofs.Grounding.Asking

/-!
# Groundings that Give a Result

Nothing that a model does keeps a grounding from its result: what it answers wrongly, or not at all,
stands for nothing found.  Only the index can fail, or thresholds of the wrong kind.

## Main statements
- `ground_returns`: a criterion gives something or nothing, but no fault.
- `run_returns`: a question gives a result.
-/

namespace SheetRecall.Grounding

open SheetRecall.Reply

variable {σ : Type}

/-! ## Thresholds -/

/-- Thresholds of the kinds that they are meant to have: confidences and importance are numbers, and
the number of criteria is an integer. -/
structure Thresholds.Numeric (t : Thresholds) : Prop where
  confident : ∃ n, t.confident.toNumber = .ok n
  strong : ∃ n, t.strong.toNumber = .ok n
  important : ∃ n, t.important.toNumber = .ok n
  maxCriteria : ∃ n, t.maxCriteria = .int n

theorem Thresholds.numeric_default : ({} : Thresholds).Numeric where
  confident := ⟨.float 0.6, rfl⟩
  strong := ⟨.float 0.8, rfl⟩
  important := ⟨.int 4, rfl⟩
  maxCriteria := ⟨3, rfl⟩

theorem exists_isBelow {threshold : Value} (h : ∃ n, threshold.toNumber = .ok n)
    (confidence : Float) : ∃ below, isBelow confidence threshold = .ok below := by
  obtain ⟨least, hleast⟩ := h
  exact ⟨(Number.float confidence).lt least, by rw [isBelow, hleast]; rfl⟩

/-- Among numbers a criterion is decisive when it is important and both its confidences are above
the strong one. -/
theorem Applied.isDecisive_eq {t : Thresholds} {important strong : Number}
    (himportant : t.important.toNumber = .ok important) (hstrong : t.strong.toNumber = .ok strong)
    (a : Applied) :
    a.isDecisive t = .ok (important.le (.int a.importance)
      && strong.lt (.float a.fieldConfidence) && strong.lt (.float a.valueConfidence)) := by
  simp only [Applied.isDecisive, himportant, hstrong, bind, Except.bind]
  cases important.le (.int a.importance) <;> rfl

/-! ## Parts -/

/-- Surroundings whose index answers: the catalog, and the values of every field. -/
structure Surroundings.IndexReturns (env : Surroundings σ) (t : Thresholds) : Prop where
  catalog : env.catalog.Returns
  topValues : ∀ kind name, (env.topValues kind name t.maxValues).Returns

theorem askCriteria_returns (env : Surroundings σ) {t : Thresholds} (ht : t.Numeric)
    (question : String) : (askCriteria env t question).Returns := by
  intro s
  rw [askCriteria_outcome, criteriaIn]
  obtain ⟨n, hn⟩ := ht.maxCriteria
  split
  case h_1 => exact ⟨[], rfl⟩
  case h_2 items _ => exact ⟨takeUpTo n (criteriaOf items).1, by rw [hn, takeLimited]⟩

theorem say_returns (env : Surroundings σ) (notice : Notice) : (env.say notice).Returns :=
  fun _ => ⟨⟨⟩, rfl⟩

/-- A criterion gives something or nothing, but no fault. -/
theorem ground_returns {env : Surroundings σ} {t : Thresholds} (ht : t.Numeric)
    (hindex : env.IndexReturns t) (c : Criterion) : (ground env t c).Returns := by
  refine hindex.catalog.bind fun catalog => ?_
  split
  case isTrue => exact (say_returns env _).bind fun _ => .pure _
  case isFalse =>
    -- what the model is asked always has an outcome; only comparisons could fail
    refine .bind (fun s => ⟨_, askField_outcome env catalog c.hint s⟩) fun found => ?_
    refine .bind (.ofExcept (exists_isBelow ht.confident found.confidence)) fun below => ?_
    split
    case h_1 => exact (say_returns env _).bind fun _ => .pure _
    case h_2 kind name _ =>
      refine (hindex.topValues kind name).bind fun values => ?_
      refine .bind (fun s => ⟨_, askValue_outcome env name values c.valueHint s⟩) fun value => ?_
      refine .bind (.ofExcept (exists_isBelow ht.confident value.confidence)) fun low => ?_
      split
      case isTrue => exact (say_returns env _).bind fun _ => .pure _
      case isFalse => exact .pure _

theorem groundAll_returns {env : Surroundings σ} {t : Thresholds} (ht : t.Numeric)
    (hindex : env.IndexReturns t) (criteria : List Criterion) :
    (groundAll env t criteria).Returns := by
  induction criteria with
  | nil => exact .pure _
  | cons c rest ih =>
    rw [groundAll]
    refine (ground_returns ht hindex c).bind fun outcome => ?_
    cases outcome with
    | none => exact ih
    -- both thresholds are numbers, so the comparisons that could end the pass give an answer
    | some a =>
      obtain ⟨important, himportant⟩ := ht.important
      obtain ⟨strong, hstrong⟩ := ht.strong
      refine .bind (.ofExcept ⟨_, a.isDecisive_eq himportant hstrong⟩) fun decisive => ?_
      split
      case isTrue => exact .pure _
      case isFalse => exact ih.bind fun _ => .pure _

/-- **A question gives a result**, whatever the model does. -/
theorem run_returns {env : Surroundings σ} {t : Thresholds} (ht : t.Numeric)
    (hindex : env.IndexReturns t) (question : String) : (run env t question).Returns :=
  (askCriteria_returns env ht question).bind fun criteria =>
    (groundAll_returns ht hindex (byImportance criteria)).bind fun _ => .pure _

end SheetRecall.Grounding
