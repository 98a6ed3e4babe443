import SheetRecall.Grounding.Run
import SheetRecall.Proofs.Grounding.Asking

/-!
# A Pass over Criteria

What grounding does, one criterion at a time.  A criterion that is applied was confirmed: its field
was found in the catalog and its value was asked for, both with enough confidence.  A pass looks up
one criterion after the other, each in the state that the one before left, until a decisive one.

## Main statements
- `confirms_of_ground`: how a criterion comes to be applied.
- `exists_lookups`: a pass as the criteria that were looked up, and how it ended.
- `run_eq_ok`: a question as its criteria and the pass over them.
-/

namespace SheetRecall.Grounding

open SheetRecall.Reply

variable {σ : Type}

/-! ## One criterion -/

/-- How a criterion is confirmed: the model finds a field of the catalog and a value for it, and
neither confidence is below the threshold. -/
inductive Confirms (env : Surroundings σ) (t : Thresholds) (c : Criterion) (s : σ) :
    Applied → σ → Prop where
  | intro {catalog s₁ found s₂ kind name values s₃ value s'}
      (hcatalog : env.catalog.perform s = (.ok catalog, s₁))
      (hfield : (askField env catalog c.hint).perform s₁ = (.ok found, s₂))
      (hfieldSure : isBelow found.confidence t.confident = .ok false)
      (hnamed : found.name ≠ noField)
      (hlocated : locate? catalog found = some (kind, name))
      (hvalues : (env.topValues kind name t.maxValues).perform s₂ = (.ok values, s₃))
      (hvalue : (askValue env name values c.valueHint).perform s₃ = (.ok value, s'))
      (hvalueSure : isBelow value.confidence t.confident = .ok false) :
      Confirms env t c s
        ⟨kind, name, value.value, c.importance, found.confidence, value.confidence⟩ s'

theorem acceptField_eq_ok {below : Bool} {catalog : Catalog} {found : FieldMatch}
    {field : Catalog.Kind × String} (h : acceptField below catalog found = .ok field) :
    below = false ∧ found.name ≠ noField ∧ locate? catalog found = some field := by
  unfold acceptField at h
  split at h
  case isTrue => cases h
  case isFalse haccepted =>
    rw [Bool.or_eq_true, not_or] at haccepted
    split at h
    case h_1 hlocated =>
      cases h
      exact ⟨by simpa using haccepted.1, by simpa using haccepted.2, hlocated⟩
    case h_2 => cases h

/-- **A criterion that is applied was confirmed.** -/
theorem confirms_of_ground {env : Surroundings σ} {t : Thresholds} {c : Criterion} {s s' : σ}
    {a : Applied} (h : (ground env t c).perform s = (.ok (some a), s')) :
    Confirms env t c s a s' := by
  unfold ground at h
  obtain ⟨catalog, s₁, hcatalog, h⟩ := Task.perform_bind_eq_ok.mp h
  split at h
  case isTrue =>
    -- nothing is known, so nothing is applied
    cases h
  case isFalse =>
    -- the steps are taken off one by one, each with the state it left
    obtain ⟨found, s₂, hfield, h⟩ := Task.perform_bind_eq_ok.mp h
    obtain ⟨below, s₂', hcompared, h⟩ := Task.perform_bind_eq_ok.mp h
    obtain ⟨hbelow, rfl⟩ := Prod.mk.inj hcompared
    cases haccept : acceptField below catalog found with
    | error notice =>
      rw [haccept] at h
      cases h
    | ok field =>
      obtain ⟨kind, name⟩ := field
      obtain ⟨rfl, hnamed, hlocated⟩ := acceptField_eq_ok haccept
      rw [haccept] at h
      obtain ⟨values, s₃, hvalues, h⟩ := Task.perform_bind_eq_ok.mp h
      obtain ⟨value, s₄, hvalue, h⟩ := Task.perform_bind_eq_ok.mp h
      obtain ⟨low, s₄', hcompared', h⟩ := Task.perform_bind_eq_ok.mp h
      obtain ⟨hlow, rfl⟩ := Prod.mk.inj hcompared'
      cases low with
      | true => cases h
      | false =>
        cases h
        exact .intro hcatalog hfield hbelow hnamed hlocated hvalues hvalue hlow

/-! ## Criteria in turn -/

/-- A criterion that was looked up, the state that it met, and what it gave. -/
structure Lookup (σ : Type) where
  criterion : Criterion
  before : σ
  outcome : Option Applied

/-- Criteria are looked up one after the other, each in the state that the one before left. -/
inductive Lookups (env : Surroundings σ) (t : Thresholds) : σ → List (Lookup σ) → σ → Prop where
  | nil (s : σ) : Lookups env t s [] s
  | cons {s s₁ s' : σ} {c : Criterion} {outcome : Option Applied} {rest : List (Lookup σ)}
      (hground : (ground env t c).perform s = (.ok outcome, s₁))
      (hrest : Lookups env t s₁ rest s') :
      Lookups env t s (⟨c, s, outcome⟩ :: rest) s'

/-- What the criteria that were looked up gave. -/
def appliedIn (lookups : List (Lookup σ)) : List Applied := lookups.filterMap (·.outcome)

/-- How a pass ends: with every criterion looked up and none decisive, or at the first decisive
one, whatever criteria are left. -/
inductive Ends (t : Thresholds) : List (Lookup σ) → List Criterion → Bool → Prop where
  | exhausted {lookups} (hopen : ∀ a ∈ appliedIn lookups, a.isDecisive t = .ok false) :
      Ends t lookups [] false
  | decided {lookups c s a} (hopen : ∀ b ∈ appliedIn lookups, b.isDecisive t = .ok false)
      (hdecisive : a.isDecisive t = .ok true) (rest : List Criterion) :
      Ends t (lookups ++ [⟨c, s, some a⟩]) rest true

/-- A lookup before the others that is not decisive does not change how the pass ends. -/
theorem Ends.cons {t : Thresholds} {lookups : List (Lookup σ)} {rest : List Criterion}
    {stopped : Bool} (h : Ends t lookups rest stopped) (first : Lookup σ)
    (hfirst : ∀ a, first.outcome = some a → a.isDecisive t = .ok false) :
    Ends t (first :: lookups) rest stopped := by
  have hcons : ∀ others : List (Lookup σ),
      (∀ a ∈ appliedIn others, a.isDecisive t = .ok false) →
      ∀ a ∈ appliedIn (first :: others), a.isDecisive t = .ok false := by
    intro others hothers a ha
    obtain ⟨l, hl, houtcome⟩ := List.mem_filterMap.mp ha
    rcases List.mem_cons.mp hl with rfl | hl
    · exact hfirst a houtcome
    · exact hothers a (List.mem_filterMap.mpr ⟨l, hl, houtcome⟩)
  cases h with
  | exhausted hopen => exact .exhausted (hcons _ hopen)
  | decided hopen hdecisive rest => exact .decided (hcons _ hopen) hdecisive rest

/-- **A pass is the lookups that it makes**: it goes through the criteria in order, applies what
they give, and ends when none is left or at the first decisive one. -/
theorem exists_lookups {env : Surroundings σ} {t : Thresholds} {criteria : List Criterion}
    {s s' : σ} {applied : List Applied} {stopped : Bool}
    (h : (groundAll env t criteria).perform s = (.ok (applied, stopped), s')) :
    ∃ lookups rest, criteria = lookups.map (·.criterion) ++ rest ∧ Lookups env t s lookups s'
      ∧ applied = appliedIn lookups ∧ Ends t lookups rest stopped := by
  -- each criterion adds one lookup in front, from the state before it to the state after it
  induction criteria generalizing s applied with
  | nil =>
    cases h
    exact ⟨[], [], rfl, .nil _, rfl, .exhausted (by simp [appliedIn])⟩
  | cons c criteria ih =>
    rw [groundAll] at h
    obtain ⟨outcome, s₁, hground, h⟩ := Task.perform_bind_eq_ok.mp h
    cases outcome with
    | none =>
      -- the criterion is skipped
      obtain ⟨lookups, rest, rfl, hlookups, rfl, hends⟩ := ih h
      exact ⟨⟨c, s, none⟩ :: lookups, rest, rfl, .cons hground hlookups, rfl,
        hends.cons _ (by simp)⟩
    | some a =>
      obtain ⟨decisive, s₁', hcompared, h⟩ := Task.perform_bind_eq_ok.mp h
      obtain ⟨hdecisive, rfl⟩ := Prod.mk.inj hcompared
      cases decisive with
      | true =>
        -- the pass ends here, with the rest not looked at
        cases h
        have hopen : ∀ b ∈ appliedIn ([] : List (Lookup σ)), b.isDecisive t = .ok false := by
          simp [appliedIn]
        exact ⟨[⟨c, s, some a⟩], criteria, rfl, .cons hground (.nil _), rfl,
          .decided hopen hdecisive criteria⟩
      -- the criterion is applied without ending the pass
      | false =>
        obtain ⟨⟨more, stopped'⟩, s₂, hrest, h⟩ := Task.perform_bind_eq_ok.mp h
        cases h
        obtain ⟨lookups, rest, rfl, hlookups, rfl, hends⟩ := ih hrest
        refine ⟨⟨c, s, some a⟩ :: lookups, rest, rfl, .cons hground hlookups, rfl,
          hends.cons _ ?_⟩
        rintro b hb
        obtain rfl := Option.some.inj hb
        exact hdecisive

/-- What was applied was confirmed, in the state that its criterion met. -/
theorem Lookups.confirms {env : Surroundings σ} {t : Thresholds} {s s' : σ}
    {lookups : List (Lookup σ)} (h : Lookups env t s lookups s') {l : Lookup σ} (hl : l ∈ lookups)
    {a : Applied} (ha : l.outcome = some a) : ∃ s₁, Confirms env t l.criterion l.before a s₁ := by
  induction h with
  | nil => exact absurd hl (by simp)
  | cons hground hrest ih =>
    rcases List.mem_cons.mp hl with rfl | hl
    · subst ha
      exact ⟨_, confirms_of_ground hground⟩
    · exact ih hl

/-! ## Whole questions -/

/-- A question that is grounded was asked for its criteria, which were then gone through. -/
theorem run_eq_ok {env : Surroundings σ} {t : Thresholds} {question : String} {s s' : σ}
    {result : Result} (h : (run env t question).perform s = (.ok result, s')) :
    ∃ s₀ applied stopped,
      (askCriteria env t question).perform s = (.ok result.criteria, s₀)
        ∧ (groundAll env t (byImportance result.criteria)).perform s₀
          = (.ok (applied, stopped), s')
        ∧ result = ⟨question, result.criteria, applied, filtersOf applied, stopped⟩ := by
  obtain ⟨criteria, s₀, hcriteria, h⟩ := Task.perform_bind_eq_ok.mp h
  obtain ⟨⟨applied, stopped⟩, s₁, hall, h⟩ := Task.perform_bind_eq_ok.mp h
  cases h
  exact ⟨s₀, applied, stopped, hcriteria, hall, rfl⟩

end SheetRecall.Grounding
