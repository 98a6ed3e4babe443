import SheetRecall.Task

/-!
# Performing Tasks

What a composed task does, told by what its parts do: its outcome and the state that it leaves.
Tasks that live in different states can still have the same outcome.

## Main statements
- `perform_bind_eq_ok`: a composed task gives a value exactly when its parts do, one after the
  other.
- `Returns.bind`: a task whose parts always give a value always gives one.
- `SameOutcome.bind`: tasks that are composed of parts with the same outcomes have the same
  outcome.
- `Keeps.bind`: what the parts of a task leave alone, the task leaves alone.
-/

namespace SheetRecall.Task

variable {σ τ α β : Type}

/-! ## Outcome and state -/

/-- The second part of a composed task meets the state that the first part left. -/
theorem perform_bind (task : Task σ α) (next : α → Task σ β) (s : σ) :
    perform (task >>= next) s
      = match perform task s with
        | (.ok a, s₁) => perform (next a) s₁
        | (.error fault, s₁) => (.error fault, s₁) := by
  rcases hperform : perform task s with ⟨outcome, s₁⟩
  have hrun : (ExceptT.run task) s = (outcome, s₁) := hperform
  simp only [perform, StateT.run, bind, ExceptT.bind, ExceptT.mk, ExceptT.run, StateT.bind]
    at hrun ⊢
  rw [hrun]
  cases outcome <;> rfl

theorem perform_bind_of_ok {task : Task σ α} {s s₁ : σ} {a : α}
    (h : perform task s = (.ok a, s₁)) (next : α → Task σ β) :
    perform (task >>= next) s = perform (next a) s₁ := by
  rw [perform_bind, h]

/-- A task that reads the state goes on with the state as it is. -/
theorem perform_get_bind (next : σ → Task σ β) (s : σ) :
    perform (MonadState.get >>= next) s = perform (next s) s := rfl

theorem perform_ofExcept (result : Except Fault α) (s : σ) :
    perform (Task.ofExcept result) s = (result, s) := rfl

/-- A composed task gives a value exactly when its parts do, one after the other. -/
theorem perform_bind_eq_ok {task : Task σ α} {next : α → Task σ β} {s s' : σ} {b : β} :
    perform (task >>= next) s = (.ok b, s')
      ↔ ∃ a s₁, perform task s = (.ok a, s₁) ∧ perform (next a) s₁ = (.ok b, s') := by
  rw [perform_bind]
  -- the first task settles whether there is a second one
  rcases perform task s with ⟨fault | a, s₁⟩
  · constructor
    · intro h
      cases h
    · rintro ⟨a, s₁, h, -⟩
      cases h
  · constructor
    · intro h
      exact ⟨a, s₁, rfl, h⟩
    · rintro ⟨a', s₁', hfirst, hnext⟩
      cases hfirst
      exact hnext

/-- If the first part gives a value and the second has the same outcome in every state, that is
the outcome of both. -/
theorem outcome_bind {task : Task σ α} {next : α → Task σ β} {s : σ} {a : α}
    {result : Except Fault β} (hfirst : (perform task s).1 = .ok a)
    (hnext : ∀ s₁, (perform (next a) s₁).1 = result) :
    (perform (task >>= next) s).1 = result := by
  rw [perform_bind]
  rcases hperform : perform task s with ⟨outcome, s₁⟩
  obtain rfl : outcome = .ok a := by rwa [hperform] at hfirst
  exact hnext s₁

/-! ## Tasks that give a value -/

/-- Whatever state the task meets, it gives a value. -/
def Returns (task : Task σ α) : Prop := ∀ s, ∃ a, (perform task s).1 = .ok a

theorem Returns.exists_perform {task : Task σ α} (h : Returns task) (s : σ) :
    ∃ a s', perform task s = (.ok a, s') := by
  obtain ⟨a, ha⟩ := h s
  exact ⟨a, (perform task s).2, Prod.ext ha rfl⟩

theorem Returns.pure (a : α) : Returns (Pure.pure a : Task σ α) := fun _ => ⟨a, rfl⟩

theorem Returns.ofExcept {result : Except Fault α} (h : ∃ a, result = .ok a) :
    Returns (Task.ofExcept result : Task σ α) := fun _ => h

theorem Returns.bind {task : Task σ α} {next : α → Task σ β} (htask : Returns task)
    (hnext : ∀ a, Returns (next a)) : Returns (task >>= next) := by
  intro s
  obtain ⟨a, s₁, hfirst⟩ := htask.exists_perform s
  rw [perform_bind_of_ok hfirst]
  exact hnext a s₁

/-! ## Tasks that leave something alone -/

/-- The task leaves alone what a function reads off the state, whatever its outcome is. -/
def Keeps (read : σ → τ) (task : Task σ α) : Prop := ∀ s, read (perform task s).2 = read s

theorem Keeps.pure {read : σ → τ} (a : α) : Keeps read (Pure.pure a : Task σ α) := fun _ => rfl

theorem Keeps.get {read : σ → τ} : Keeps read (MonadState.get : Task σ σ) := fun _ => rfl

theorem Keeps.ofExcept {read : σ → τ} (result : Except Fault α) :
    Keeps read (Task.ofExcept result : Task σ α) := fun _ => rfl

theorem Keeps.modify {read : σ → τ} {f : σ → σ} (h : ∀ s, read (f s) = read s) :
    Keeps read (modify f : Task σ Unit) := h

theorem Keeps.bind {read : σ → τ} {task : Task σ α} {next : α → Task σ β}
    (htask : Keeps read task) (hnext : ∀ a, Keeps read (next a)) :
    Keeps read (task >>= next) := by
  intro s
  have hfirst := htask s
  rw [perform_bind]
  rcases hperform : perform task s with ⟨outcome, s₁⟩
  rw [hperform] at hfirst
  cases outcome with
  | error fault => exact hfirst
  | ok a => exact (hnext a s₁).trans hfirst

/-! ## Tasks with the same outcome -/

/-- The tasks have the same outcome, whatever states they meet. -/
def SameOutcome (first : Task σ α) (second : Task τ α) : Prop :=
  ∀ s t, (perform first s).1 = (perform second t).1

theorem SameOutcome.pure (a : α) :
    SameOutcome (Pure.pure a : Task σ α) (Pure.pure a : Task τ α) := fun _ _ => rfl

theorem SameOutcome.ofExcept (result : Except Fault α) :
    SameOutcome (Task.ofExcept result : Task σ α) (Task.ofExcept result : Task τ α) :=
  fun _ _ => rfl

/-- A task that always has the outcome of another has one outcome only. -/
theorem SameOutcome.self_right {first : Task σ α} {second : Task τ α}
    (h : SameOutcome first second) (s : σ) : SameOutcome second second :=
  fun t t' => (h s t).symm.trans (h s t')

/-- Tasks that are composed of parts with the same outcomes have the same outcome. -/
theorem SameOutcome.bind {first : Task σ α} {second : Task τ α} {next : α → Task σ β}
    {next' : α → Task τ β} (h : SameOutcome first second)
    (hnext : ∀ a, SameOutcome (next a) (next' a)) :
    SameOutcome (first >>= next) (second >>= next') := by
  intro s t
  rw [perform_bind, perform_bind]
  rcases hfirst : perform first s with ⟨outcome, s₁⟩
  rcases hsecond : perform second t with ⟨outcome', t₁⟩
  obtain rfl : outcome = outcome' := by
    have hsame := h s t
    rwa [hfirst, hsecond] at hsame
  cases outcome with
  | error fault => rfl
  | ok a => exact hnext a s₁ t₁

end SheetRecall.Task
