import Mathlib.Data.List.Basic

/-!
# The Last Step That Counts

What a state shows is often settled by one step of its history: the last one of those that settle
anything.  A history grows at its end, so what is known of such a step is kept up step by step.
-/

namespace SheetRecall

variable {α : Type}

/-- The step is in the history, and none of those behind it settles anything. -/
def LastStep (settles : α → Prop) (history : List α) (step : α) : Prop :=
  ∃ before after, history = before ++ step :: after ∧ ∀ later ∈ after, ¬settles later

theorem not_lastStep_nil (settles : α → Prop) (step : α) : ¬LastStep settles [] step := by
  rintro ⟨before, after, hhistory, -⟩
  exact absurd hhistory (by simp)

/-- A step is the last one of a longer history if it was added, or if it was the last one before
and the added step settles nothing. -/
theorem lastStep_concat {settles : α → Prop} (history : List α) (added step : α) :
    LastStep settles (history ++ [added]) step
      ↔ added = step ∨ (LastStep settles history step ∧ ¬settles added) := by
  constructor
  · rintro ⟨before, after, hhistory, hafter⟩
    -- nothing came behind the step, or the added one came last
    rcases List.eq_nil_or_concat after with rfl | ⟨after, last, rfl⟩
    · obtain ⟨-, hstep⟩ := List.append_inj' hhistory rfl
      exact Or.inl (List.singleton_inj.mp hstep)
    · rw [List.concat_eq_append, ← List.cons_append, ← List.append_assoc] at hhistory
      obtain ⟨hbefore, hstep⟩ := List.append_inj' hhistory rfl
      obtain rfl := List.singleton_inj.mp hstep
      refine Or.inr ⟨⟨before, after, hbefore, fun later hlater => ?_⟩, ?_⟩
      · exact hafter later (by simp [hlater])
      · exact hafter added (by simp)
  · rintro (rfl | ⟨⟨before, after, rfl, hafter⟩, hadded⟩)
    · exact ⟨history, [], rfl, by simp⟩
    · refine ⟨before, after ++ [added], by simp, fun later hlater => ?_⟩
      rcases List.mem_append.mp hlater with hlater | hlater
      · exact hafter later hlater
      · rw [List.mem_singleton.mp hlater]
        exact hadded

/-- The last of the steps that settle anything is the last one of fewer such steps. -/
theorem LastStep.mono {settles fewer : α → Prop} (h : ∀ step, fewer step → settles step)
    {history : List α} {step : α} (hlast : LastStep settles history step) :
    LastStep fewer history step := by
  obtain ⟨before, after, hhistory, hafter⟩ := hlast
  exact ⟨before, after, hhistory, fun later hlater hfewer => hafter later hlater (h later hfewer)⟩

end SheetRecall
