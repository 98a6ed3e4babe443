import SheetRecall.Fault

/-!
# Tasks

Steps that read and change a state and may fail.  What a task changed before it failed stays
changed, as it does in a store that others can see.
-/

namespace SheetRecall

/-- A step on a state; it gives a value or a fault, and the state after it in either case. -/
abbrev Task (σ α : Type) := ExceptT Fault (StateM σ) α

namespace Task

/-- Runs a task. -/
def perform (task : Task σ α) (s : σ) : Except Fault α × σ := (ExceptT.run task).run s

/-- A task that only gives a value or a fault. -/
def ofExcept (result : Except Fault α) : Task σ α := ExceptT.mk (pure result)

/-- Gives the outcome of a task as a value. -/
def outcome (task : Task σ α) : Task σ (Except Fault α) :=
  ExceptT.mk do return .ok (← ExceptT.run task)

/-- A task on a part of the state. -/
def onPart (get : τ → σ) (set : τ → σ → τ) (task : Task σ α) : Task τ α :=
  ExceptT.mk do
    let t ← MonadState.get
    let (result, s) := task.perform (get t)
    MonadState.set (set t s)
    return result

end Task

end SheetRecall
