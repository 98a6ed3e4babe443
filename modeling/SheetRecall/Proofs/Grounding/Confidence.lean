import SheetRecall.Proofs.Grounding.Pass
import SheetRecall.Proofs.Value.Order

/-!
# Confidence of What Is Applied

A match is dropped when its confidence is below the threshold, and what is not below is kept.  For
numbers that is the same as being at least the threshold.  The double that is no number is not below
anything and not at least anything: a model that writes it for a confidence gets its match applied.

## Main statements
- `applied_least`: the confidences of an applied criterion are at least the threshold, exactly when
  they and the threshold are numbers.
- `applied_with_no_confidence`: a criterion that is applied although its confidence is no number.
-/

namespace SheetRecall.Grounding

variable {σ : Type}

/-! ## Not below, and at least -/

/-- A confidence that is not below a threshold is at least the threshold, unless one of them is no
number. -/
theorem le_of_isBelow_eq_false {confidence : Float} {threshold : Value} {least : Number}
    (hleast : threshold.toNumber = .ok least) (h : isBelow confidence threshold = .ok false) :
    least.le (.float confidence) = !(least.isNone || confidence.isNaN) := by
  have hlt : (Number.float confidence).lt least = false := by
    rw [isBelow, hleast] at h
    exact Except.ok.inj h
  have hiff := Number.le_iff_not_lt least (.float confidence)
  rw [Bool.eq_iff_iff, hiff, hlt]
  simp [Number.isNone]

theorem exists_toNumber_of_isBelow {confidence : Float} {threshold : Value} {below : Bool}
    (h : isBelow confidence threshold = .ok below) :
    ∃ least, threshold.toNumber = .ok least := by
  cases hleast : threshold.toNumber with
  | error fault =>
    rw [isBelow, hleast] at h
    cases h
  | ok least => exact ⟨least, rfl⟩

/-! ## Applied criteria -/

/-- Everything that a question applies was confirmed. -/
theorem exists_confirms {env : Surroundings σ} {t : Thresholds} {question : String} {s s' : σ}
    {result : Result} (h : (run env t question).perform s = (.ok result, s')) {a : Applied}
    (ha : a ∈ result.applied) : ∃ c s₁ s₂, Confirms env t c s₁ a s₂ := by
  obtain ⟨s₀, applied, stopped, -, hall, hresult⟩ := run_eq_ok h
  obtain ⟨lookups, rest, -, hlookups, happlied, -⟩ := exists_lookups hall
  rw [hresult, happlied] at ha
  obtain ⟨l, hl, hgave⟩ := List.mem_filterMap.mp ha
  obtain ⟨s₂, hconfirms⟩ := hlookups.confirms hl hgave
  exact ⟨l.criterion, l.before, s₂, hconfirms⟩

/-- **What is applied is confident enough, as far as its confidence is a number**: the confidences
in the field and in the value are at least the threshold exactly when neither they nor the threshold
is the double that is no number. -/
theorem applied_least {env : Surroundings σ} {t : Thresholds} {question : String} {s s' : σ}
    {result : Result} (h : (run env t question).perform s = (.ok result, s')) {a : Applied}
    (ha : a ∈ result.applied) :
    ∃ least, t.confident.toNumber = .ok least
      ∧ ∀ confidence ∈ [a.fieldConfidence, a.valueConfidence],
        least.le (.float confidence) = !(least.isNone || confidence.isNaN) := by
  obtain ⟨c, s₁, s₂, hconfirms⟩ := exists_confirms h ha
  cases hconfirms with
  | intro hcatalog hfield hfieldSure hnamed hlocated hvalues hvalue hvalueSure =>
    -- the two comparisons that let the criterion pass are all that is known of its confidences
    obtain ⟨least, hleast⟩ := exists_toNumber_of_isBelow hfieldSure
    refine ⟨least, hleast, fun confidence hmem => ?_⟩
    simp only [List.mem_cons, List.not_mem_nil, or_false] at hmem
    rcases hmem with rfl | rfl
    · exact le_of_isBelow_eq_false hleast hfieldSure
    · exact le_of_isBelow_eq_false hleast hvalueSure

/-! ## A confidence that is no number -/

/-- An index with the one column `status`.  Asked for the servers that are running, the model finds
the column with the given confidence and its value with more than enough. -/
def runningServers (confidence : String) : Surroundings Unit :=
  fixed ⟨[], ["status"]⟩ [("Running", 7)] fun prompt =>
    match prompt.topic with
    | .criteria => "[\x7b\"fieldNameHint\": \"state\", \"valueHint\": \"up\"\x7d]"
    | .field => "\x7b\"fieldName\": \"Status\", \"confidence\": " ++ confidence ++ "\x7d"
    | .value => "\x7b\"value\": \"Running\", \"confidence\": 0.9\x7d"

/-- With a confidence of 0.7 the criterion is applied, and 0.7 is at least the threshold. -/
theorem applied_least_running :
    ∃ result s' a, (run (runningServers "0.7") {} "q").perform () = (.ok result, s')
      ∧ a ∈ result.applied
      ∧ ∃ least, ({} : Thresholds).confident.toNumber = .ok least
        ∧ ∀ confidence ∈ [a.fieldConfidence, a.valueConfidence],
          least.le (.float confidence) = !(least.isNone || confidence.isNaN) := by
  have hcount : ((run (runningServers "0.7") {} "q").perform ()).1.toOption.map
      (·.applied.length) = some 1 := by decide +kernel
  cases hrun : (run (runningServers "0.7") {} "q").perform () with
  | mk outcome s' =>
    rw [hrun] at hcount
    cases outcome with
    | error fault => cases hcount
    | ok result =>
      have hlength : result.applied.length = 1 := Option.some.inj hcount
      obtain ⟨a, ha⟩ := List.length_eq_one_iff.mp hlength
      have hmem : a ∈ result.applied := by simp [ha]
      exact ⟨result, s', a, rfl, hmem, applied_least hrun hmem⟩

/-- With a confidence that is no number the criterion is applied too, although its confidence is not
at least the threshold. -/
theorem applied_with_no_confidence :
    ∃ result a, ((run (runningServers "NaN") {} "q").perform ()).1 = .ok result
      ∧ a ∈ result.applied
      ∧ ∃ least, ({} : Thresholds).confident.toNumber = .ok least
        ∧ least.le (.float a.fieldConfidence) = false := by
  have hchecked : ((run (runningServers "NaN") {} "q").perform ()).1.toOption.map
      (·.applied.map fun a => Number.le (.float 0.6) (.float a.fieldConfidence))
        = some [false] := by decide +kernel
  cases hrun : ((run (runningServers "NaN") {} "q").perform ()).1 with
  | error fault =>
    rw [hrun] at hchecked
    cases hchecked
  | ok result =>
    rw [hrun] at hchecked
    obtain ⟨a, ha, hlow⟩ := List.map_eq_singleton_iff.mp (Option.some.inj hchecked)
    exact ⟨result, a, rfl, by simp [ha], .float 0.6, rfl, hlow⟩

end SheetRecall.Grounding
