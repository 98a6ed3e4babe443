import SheetRecall.Proofs.Filter.Grouping
import SheetRecall.Proofs.Grounding.Confidence
import SheetRecall.Proofs.Grounding.Returns
import SheetRecall.Proofs.Ranking

/-!
# The Shape of a Grounding

What a result tells about the work that led to it.  The criteria were looked up in the order of
their importance, one after the other; what is applied comes from a part of them, in that order,
under names of the catalog; the work stopped early exactly if what was applied last is decisive; and
the filter holds what is applied, key by key.

## Main statements
- `shape_of_run`: every result has this shape.
- `exists_shape`: a question has a result, and it has this shape.
-/

namespace SheetRecall.Grounding

open SheetRecall.Reply

variable {σ : Type}

/-! ## Names -/

/-- The name under which a criterion was applied: one of the catalog that was met when the criterion
was looked up, among those of its kind, and the name in the model's reply but for the case of
letters. -/
def Named (env : Surroundings σ) (l : Lookup σ) (a : Applied) : Prop :=
  ∃ catalog s reply found,
    env.catalog.perform l.before = (.ok catalog, s)
      ∧ ((env.answer (.forField catalog.describe l.criterion.hint)).perform s).1 = .ok reply
      ∧ readMatch FieldMatch.ofValue (jsonText reply) = .ok found
      ∧ a.name ∈ catalog.names a.kind ∧ Text.lower a.name = Text.lower found.name

theorem mem_names_of_locate? {catalog : Catalog} {found : FieldMatch} {kind : Catalog.Kind}
    {name : String} (h : locate? catalog found = some (kind, name)) :
    name ∈ catalog.names kind ∧ Text.lower name = Text.lower found.name := by
  obtain ⟨tried, -, hfound⟩ := List.exists_of_findSome?_eq_some h
  obtain ⟨known, hknown, hpair⟩ := Option.map_eq_some_iff.mp hfound
  obtain ⟨rfl, rfl⟩ := Prod.mk.inj hpair
  rw [Catalog.find?] at hknown
  have hsame : Catalog.sameName known found.name = true :=
    List.find?_some (p := fun known => Catalog.sameName known found.name) hknown
  exact ⟨List.mem_of_find?_eq_some hknown, beq_iff_eq.mp hsame⟩

/-- What is confirmed is named as the catalog and the model name it. -/
theorem Confirms.named {env : Surroundings σ} {t : Thresholds} {l : Lookup σ} {a : Applied} {s' : σ}
    (h : Confirms env t l.criterion l.before a s') : Named env l a := by
  cases h with
  | @intro catalog s₁ found s₂ kind name values s₃ value s' hcatalog hfield hfieldSure hnamed
      hlocated hvalues hvalue hvalueSure =>
    -- the field that was found is read off the reply
    have hfound := askField_outcome env catalog l.criterion.hint s₁
    rw [hfield] at hfound
    obtain rfl := Except.ok.inj hfound
    obtain ⟨reply, hreply, hread⟩ := exists_reply_of_fieldIn hnamed
    obtain ⟨hmem, hlower⟩ := mem_names_of_locate? hlocated
    exact ⟨catalog, s₁, reply, _, hcatalog, hreply, hread, hmem, hlower⟩

theorem Confirms.importance_eq {env : Surroundings σ} {t : Thresholds} {c : Criterion} {s s' : σ}
    {a : Applied} (h : Confirms env t c s a s') : a.importance = c.importance := by
  cases h
  rfl

/-! ## What comes of a list of lookups -/

/-- Helper: what a partial function gives comes from the elements at which it gives something. -/
theorem forall₂_filterMap {α β : Type} (f : α → Option β) (xs : List α) :
    List.Forall₂ (fun x y => f x = some y) (xs.filter fun x => (f x).isSome) (xs.filterMap f) := by
  induction xs with
  | nil => exact .nil
  | cons x xs ih =>
    cases hx : f x with
    | none => simpa [hx] using ih
    | some y => simpa [hx] using ih

/-- A lookup is where an applied criterion comes from. -/
structure Source (env : Surroundings σ) (l : Lookup σ) (a : Applied) : Prop where
  outcome_eq : l.outcome = some a
  importance_eq : a.importance = l.criterion.importance
  named : Named env l a

/-- What is applied comes from a part of the lookups, in order. -/
theorem exists_sources {env : Surroundings σ} {t : Thresholds} {s s' : σ}
    {lookups : List (Lookup σ)} (h : Lookups env t s lookups s') :
    ∃ sources, sources.Sublist lookups ∧ List.Forall₂ (Source env) sources (appliedIn lookups) := by
  -- the lookups that gave something, one for each criterion that was applied
  refine ⟨lookups.filter fun l => l.outcome.isSome, List.filter_sublist, ?_⟩
  have hgave := forall₂_filterMap (fun l : Lookup σ => l.outcome) lookups
  refine List.forall₂_iff_get.mpr ⟨hgave.length_eq, fun i hl ha => ?_⟩
  have houtcome := (List.forall₂_iff_get.mp hgave).2 i hl ha
  have hmem := List.filter_sublist.subset (List.get_mem (lookups.filter _) ⟨i, hl⟩)
  obtain ⟨s₁, hconfirms⟩ := h.confirms hmem houtcome
  exact ⟨houtcome, hconfirms.importance_eq, hconfirms.named⟩

/-! ## Decisive criteria -/

/-- The criterion is important, and the confidences in its field and its value are strong. -/
def Applied.Decisive (t : Thresholds) (a : Applied) : Prop :=
  ∃ important strong, t.important.toNumber = .ok important ∧ t.strong.toNumber = .ok strong
    ∧ important.le (.int a.importance) = true ∧ strong.lt (.float a.fieldConfidence) = true
    ∧ strong.lt (.float a.valueConfidence) = true

/-- What is found to be decisive is, and what is found not to be is not. -/
theorem Applied.decisive_iff {t : Thresholds} {a : Applied} {decisive : Bool}
    (h : a.isDecisive t = .ok decisive) : a.Decisive t ↔ decisive = true := by
  constructor
  · rintro ⟨important, strong, himportant, hstrong, hparts⟩
    rw [a.isDecisive_eq himportant hstrong] at h
    obtain rfl := Except.ok.inj h
    simp [hparts]
  · rintro rfl
    -- the other way round, the answer has to come from somewhere: both thresholds were compared
    rw [Applied.isDecisive] at h
    cases himportant : t.important.toNumber with
    | error fault =>
      rw [himportant] at h
      cases h
    | ok important =>
      cases hstrong : t.strong.toNumber with
      | error fault =>
        -- the strong confidence was not asked for, so nothing was found decisive
        rw [himportant, hstrong] at h
        cases hle : important.le (.int a.importance) <;>
          simp [hle, bind, Except.bind, pure, Except.pure] at h
      | ok strong =>
        have hparts := a.isDecisive_eq himportant hstrong
        rw [Applied.isDecisive, h] at hparts
        have htrue := (Except.ok.inj hparts).symm
        simp only [Bool.and_eq_true] at htrue
        exact ⟨important, strong, himportant, hstrong, htrue.1.1, htrue.1.2, htrue.2⟩

/-! ## Endings -/

theorem appliedIn_concat (lookups : List (Lookup σ)) (c : Criterion) (s : σ) (a : Applied) :
    appliedIn (lookups ++ [⟨c, s, some a⟩]) = appliedIn lookups ++ [a] := by
  simp [appliedIn]

namespace Ends

variable {t : Thresholds} {lookups : List (Lookup σ)} {rest : List Criterion} {stopped : Bool}

/-- A pass stops early exactly if what it applied last is decisive. -/
theorem stopped_iff (h : Ends t lookups rest stopped) :
    stopped = true ↔ ∃ a, (appliedIn lookups).getLast? = some a ∧ a.Decisive t := by
  cases h with
  | exhausted hopen =>
    constructor
    · intro h
      cases h
    · -- nothing that was applied is decisive, so neither is the last
      rintro ⟨a, hlast, hdecisive⟩
      exact (Applied.decisive_iff (hopen a (List.mem_of_getLast? hlast))).mp hdecisive
  | @decided lookups c s a hopen hdecisive rest =>
    rw [appliedIn_concat, List.getLast?_concat]
    exact ⟨fun _ => ⟨a, rfl, (Applied.decisive_iff hdecisive).mpr rfl⟩, fun _ => rfl⟩

/-- What a pass applied before the last is not decisive. -/
theorem undecided (h : Ends t lookups rest stopped) :
    ∀ a ∈ (appliedIn lookups).dropLast, ¬a.Decisive t := by
  have hnot : ∀ a : Applied, a.isDecisive t = .ok false → ¬a.Decisive t := by
    intro a ha hdecisive
    exact absurd ((Applied.decisive_iff ha).mp hdecisive) (by decide)
  cases h with
  | exhausted hopen => exact fun a ha => hnot a (hopen a (List.dropLast_subset _ ha))
  | decided hopen hdecisive rest =>
    rw [appliedIn_concat, List.dropLast_concat]
    exact fun a ha => hnot a (hopen a ha)

/-- A pass that stops early stops at the lookup that gave the decisive criterion. -/
theorem stops (h : Ends t lookups rest stopped) (hstopped : stopped = true) :
    ∃ l a, lookups.getLast? = some l ∧ l.outcome = some a
      ∧ (appliedIn lookups).getLast? = some a := by
  cases h with
  | exhausted => cases hstopped
  | @decided lookups c s a hopen hdecisive rest =>
    rw [appliedIn_concat, List.getLast?_concat, List.getLast?_concat]
    exact ⟨_, a, rfl, rfl, rfl⟩

/-- A pass that does not stop early leaves no criterion out. -/
theorem goes_on (h : Ends t lookups rest stopped) (hstopped : stopped = false) : rest = [] := by
  cases h with
  | exhausted => rfl
  | decided => cases hstopped

end Ends

/-! ## Results -/

/-- What a result tells about the work that led to it: the criteria that were looked up, those that
were not, and the states before and after. -/
structure Shape (env : Surroundings σ) (t : Thresholds) (result : Result) (s s' : σ)
    (lookups : List (Lookup σ)) (rest : List Criterion) : Prop where
  /-- There are no more criteria than were asked for. -/
  limited : ∀ n : Nat, t.maxCriteria = .int n → result.criteria.length ≤ n
  /-- What is looked up, and then what is not, are the criteria by importance; criteria of the same
  importance keep the order that the model gave them. -/
  ranked : RankedBy (·.importance) result.criteria (lookups.map (·.criterion) ++ rest)
  /-- Nothing else happens than the lookups, one after the other. -/
  lookedUp : Lookups env t s lookups s'
  /-- What is applied comes from a part of the lookups, in order. -/
  sources : ∃ sources, sources.Sublist lookups ∧ List.Forall₂ (Source env) sources result.applied
  /-- The work stopped early exactly if the last criterion that was applied is decisive. -/
  stoppedEarly_iff :
    result.stoppedEarly = true ↔ ∃ a, result.applied.getLast? = some a ∧ a.Decisive t
  /-- None that was applied before the last is decisive. -/
  undecided : ∀ a ∈ result.applied.dropLast, ¬a.Decisive t
  /-- The lookup that gave the decisive criterion is the last one. -/
  stops : result.stoppedEarly = true →
    ∃ l a, lookups.getLast? = some l ∧ l.outcome = some a ∧ result.applied.getLast? = some a
  /-- Without a decisive criterion all are looked up. -/
  goes_on : result.stoppedEarly = false → rest = []
  /-- The filter holds what was applied, key by key; there is none if nothing was. -/
  filters_eq : result.filters
    = if result.applied.isEmpty then []
      else [Filter.grouped (result.applied.map fun a => (a.key, a.value))]

theorem length_criteriaIn_le {t : Thresholds} {answer : Except Fault (Option String)}
    {criteria : List Criterion} (h : criteriaIn t answer = .ok criteria) {n : Nat}
    (hn : t.maxCriteria = .int n) : criteria.length ≤ n := by
  unfold criteriaIn at h
  split at h
  case h_1 =>
    cases h
    exact Nat.zero_le n
  case h_2 items _ =>
    rw [hn, takeLimited, takeUpTo, if_pos (Int.natCast_nonneg n), Int.toNat_natCast] at h
    cases h
    exact List.length_take_le n _

/-- The values of applied criteria are texts. -/
theorem filterOf_eq (applied : List Applied) :
    filterOf applied
      = .ofPairs ((applied.map fun a => (a.key, a.value)).map Filter.textPair) := by
  rw [filterOf, List.map_map]
  rfl

theorem filtersOf_eq (applied : List Applied) :
    filtersOf applied
      = if applied.isEmpty then []
        else [Filter.grouped (applied.map fun a => (a.key, a.value))] := by
  rw [filtersOf, filterOf_eq, Filter.isEmpty_ofPairs_texts, Filter.toMap_ofPairs_texts,
    List.isEmpty_map]

/-- **Every result has this shape.** -/
theorem shape_of_run {env : Surroundings σ} {t : Thresholds} {question : String} {s s' : σ}
    {result : Result} (h : (run env t question).perform s = (.ok result, s')) :
    ∃ s₀ lookups rest, (askCriteria env t question).perform s = (.ok result.criteria, s₀)
      ∧ Shape env t result s₀ s' lookups rest := by
  obtain ⟨s₀, applied, stopped, hcriteria, hall, hresult⟩ := run_eq_ok h
  obtain ⟨lookups, rest, hsorted, hlookups, rfl, hends⟩ := exists_lookups hall
  -- the parts of the result, one by one
  have happlied : result.applied = appliedIn lookups := by rw [hresult]
  have hstopped : result.stoppedEarly = stopped := by rw [hresult]
  refine ⟨s₀, lookups, rest, hcriteria, ?_⟩
  have hlimited : ∀ n : Nat, t.maxCriteria = .int n → result.criteria.length ≤ n := by
    intro n hn
    have houtcome := askCriteria_outcome env t question s
    rw [hcriteria] at houtcome
    exact length_criteriaIn_le houtcome.symm hn
  have hranked : RankedBy (·.importance) result.criteria (lookups.map (·.criterion) ++ rest) := by
    rw [← hsorted]
    exact rankedBy_mergeSort (·.importance) result.criteria
  have hfilters : result.filters = filtersOf (appliedIn lookups) := by rw [hresult]
  exact {
    limited := hlimited
    ranked := hranked
    lookedUp := hlookups
    sources := happlied ▸ exists_sources hlookups
    stoppedEarly_iff := by rw [hstopped, happlied]; exact hends.stopped_iff
    undecided := happlied ▸ hends.undecided
    stops := by rw [hstopped, happlied]; exact hends.stops
    goes_on := hstopped ▸ hends.goes_on
    filters_eq := by rw [hfilters, filtersOf_eq, happlied] }

/-- **A question has a result, and it has this shape**, if the index answers: whatever the model
does. -/
theorem exists_shape {env : Surroundings σ} {t : Thresholds} (ht : t.Numeric)
    (hindex : env.IndexReturns t) (question : String) (s : σ) :
    ∃ result s' s₀ lookups rest, (run env t question).perform s = (.ok result, s')
      ∧ (askCriteria env t question).perform s = (.ok result.criteria, s₀)
      ∧ Shape env t result s₀ s' lookups rest := by
  obtain ⟨result, s', hrun⟩ := (run_returns ht hindex question).exists_perform s
  obtain ⟨s₀, lookups, rest, hcriteria, hshape⟩ := shape_of_run hrun
  exact ⟨result, s', s₀, lookups, rest, hrun, hcriteria, hshape⟩

/-- The question for running servers has a result of this shape. -/
theorem exists_shape_running :
    ∃ result s' s₀ lookups rest, (run (runningServers "0.9") {} "q").perform () = (.ok result, s')
      ∧ (askCriteria (runningServers "0.9") {} "q").perform () = (.ok result.criteria, s₀)
      ∧ Shape (runningServers "0.9") {} result s₀ s' lookups rest :=
  exists_shape Thresholds.numeric_default
    ⟨fun _ => ⟨⟨[], ["status"]⟩, rfl⟩, fun _ _ _ => ⟨[("Running", 7)], rfl⟩⟩ "q" ()

end SheetRecall.Grounding
