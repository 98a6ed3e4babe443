import Mathlib.Data.List.Basic

/-!
# Results One after the Other

What is computed in parts gives a result if every part does, and otherwise the fault of the first
part that has none.  This is told once for two parts and once for a list of them.

## Main statements
- `except_bind_eq_ok_iff`, `except_bind_eq_error_iff`: one part after another.
- `mapM_eq_ok_iff`, `mapM_eq_error_iff`: one part for each element of a list.
-/

namespace SheetRecall

variable {ε α β : Type} {f : α → Except ε β}

/-! ## One after the other -/

theorem except_bind_eq_ok_iff {γ : Type} {x : Except ε α} {next : α → Except ε γ} {c : γ} :
    x >>= next = .ok c ↔ ∃ a, x = .ok a ∧ next a = .ok c := by
  cases x <;> simp [bind, Except.bind]

theorem except_bind_eq_error_iff {γ : Type} {x : Except ε α} {next : α → Except ε γ} {e : ε} :
    x >>= next = .error e ↔ x = .error e ∨ ∃ a, x = .ok a ∧ next a = .error e := by
  cases x <;> simp [bind, Except.bind]

theorem except_map_eq_ok_iff {x : Except ε α} {g : α → β} {b : β} :
    x.map g = .ok b ↔ ∃ a, x = .ok a ∧ g a = b := by
  cases x <;> simp [Except.map]

/-! ## Results for lists -/

/-- There are results for a list exactly if there is one for every element. -/
theorem mapM_eq_ok_iff [Inhabited β] {items : List α} {results : List β} :
    items.mapM f = .ok results
      ↔ ∃ g : α → β, (∀ a ∈ items, f a = .ok (g a)) ∧ results = items.map g := by
  constructor
  · intro h
    -- an element without a result has any
    refine ⟨fun a => (f a).toOption.getD default, ?_⟩
    induction items generalizing results with
    | nil =>
      cases h
      exact ⟨fun _ ha => absurd ha List.not_mem_nil, rfl⟩
    | cons a rest ih =>
      rw [List.mapM_cons, except_bind_eq_ok_iff] at h
      obtain ⟨b, hb, hrest⟩ := h
      obtain ⟨bs, hbs, hresults⟩ := except_bind_eq_ok_iff.mp hrest
      obtain ⟨hall, rfl⟩ := ih hbs
      cases hresults
      refine ⟨List.forall_mem_cons.mpr ⟨?_, hall⟩, ?_⟩
      · simp only [hb, Except.toOption, Option.getD_some]
      · simp only [List.map_cons, hb, Except.toOption, Option.getD_some]
  · rintro ⟨g, hall, rfl⟩
    -- the other way round, one result after the other is the one that is claimed
    induction items with
    | nil => rfl
    | cons a rest ih =>
      obtain ⟨ha, hrest⟩ := List.forall_mem_cons.mp hall
      rw [List.mapM_cons, ha, ih hrest]
      rfl

/-- There is a fault for a list exactly if an element has that fault and there are results for all
elements before it. -/
theorem mapM_eq_error_iff {items : List α} {e : ε} :
    items.mapM f = .error e
      ↔ ∃ before a after, items = before ++ a :: after
        ∧ (∀ b ∈ before, ∃ result, f b = .ok result) ∧ f a = .error e := by
  induction items with
  | nil =>
    constructor
    · intro h
      cases h
    · rintro ⟨before, a, after, hitems, -⟩
      exact absurd hitems.symm (List.append_ne_nil_of_right_ne_nil _ (List.cons_ne_nil a after))
  | cons first rest ih =>
    rw [List.mapM_cons, except_bind_eq_error_iff]
    constructor
    · -- the fault is met here, with nothing before it, or further on
      rintro (hfirst | ⟨result, hfirst, hrest⟩)
      · exact ⟨[], first, rest, rfl, fun b hb => absurd hb List.not_mem_nil, hfirst⟩
      · rcases except_bind_eq_error_iff.mp hrest with hlater | ⟨results, -, hpure⟩
        · obtain ⟨before, a, after, rfl, hbefore, ha⟩ := ih.mp hlater
          exact ⟨first :: before, a, after, rfl,
            List.forall_mem_cons.mpr ⟨⟨result, hfirst⟩, hbefore⟩, ha⟩
        · cases hpure
    · rintro ⟨before, a, after, hitems, hbefore, ha⟩
      -- the fault is that of the first element, or is met behind its result
      cases before with
      | nil =>
        obtain ⟨rfl, rfl⟩ := List.cons.inj hitems
        exact Or.inl ha
      | cons b before =>
        obtain ⟨rfl, rfl⟩ := List.cons.inj hitems
        obtain ⟨⟨result, hfirst⟩, hbefore⟩ := List.forall_mem_cons.mp hbefore
        refine Or.inr ⟨result, hfirst, ?_⟩
        exact except_bind_eq_error_iff.mpr (Or.inl (ih.mpr ⟨before, a, after, rfl, hbefore, ha⟩))

theorem exists_of_mapM_eq_error {items : List α} {e : ε} (h : items.mapM f = .error e) :
    ∃ a ∈ items, f a = .error e := by
  obtain ⟨before, a, after, rfl, -, ha⟩ := mapM_eq_error_iff.mp h
  exact ⟨a, List.mem_append_right before List.mem_cons_self, ha⟩

end SheetRecall
