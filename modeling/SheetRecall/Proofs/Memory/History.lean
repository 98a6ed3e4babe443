import SheetRecall.Memory.Records
import SheetRecall.Proofs.Entries
import SheetRecall.Proofs.Histories

/-!
# Histories of an Index

The changes that were made to the records of an index, and how each of them went.  A history leaves
the records that were written and neither replaced nor deleted since; `latest` gathers them by id,
one step after the other.

## Main statements
- `stands_concat`: what one more step does to the records that stand.
- `get?_latest_iff`: the records that are gathered are the ones that stand.
-/

namespace SheetRecall.Memory

/-! ## Changes -/

/-- A change of an index. -/
inductive Change where
  /-- A record is written. -/
  | write (record : Record)
  /-- A record is deleted. -/
  | erase (record : Record)

/-- Makes the change. -/
def Change.make (m : Memory) (index : String) : Change → Task Session Unit
  | write record => do
    let _ ← m.upsert index record
    return
  | erase record => m.delete index record

/-- A change that was tried, and how it went. -/
structure Step where
  change : Change
  outcome : Except Fault Unit

/-- A record that was written. -/
def Step.wrote (record : Record) : Step := ⟨.write record, .ok ()⟩

/-- Makes one change after the other.  A change that fails is passed over, and the next is tried
in the session that it leaves. -/
def run (m : Memory) (index : String) : List Change → Session → List Step × Session
  | [], s => ([], s)
  | change :: rest, s =>
    let (outcome, s₁) := (change.make m index).perform s
    let (steps, s₂) := run m index rest s₁
    (⟨change, outcome⟩ :: steps, s₂)

/-- A history tells of each change, in their order. -/
theorem map_change_run (m : Memory) (index : String) (changes : List Change) (s : Session) :
    (run m index changes s).1.map (·.change) = changes := by
  induction changes generalizing s with
  | nil => rfl
  | cons change rest ih => exact congrArg (change :: ·) (ih _)

/-! ## Records that stand -/

/-- The step settles what is kept under an id: it wrote a record with that id, or deleted one. -/
def Step.Settles (id : String) : Step → Prop
  | ⟨.write record, .ok _⟩ => record.id = id
  | ⟨.write _, .error _⟩ => False
  | ⟨.erase record, _⟩ => record.id = id

/-- The record was written, and since then none with its id was written or deleted. -/
def Stands (history : List Step) (record : Record) : Prop :=
  ∃ before after, history = before ++ .wrote record :: after
    ∧ ∀ step ∈ after, ¬step.Settles record.id

theorem not_stands_nil (record : Record) : ¬Stands [] record := not_lastStep_nil _ _

/-- A record stands after one more step if that step wrote it, or if it stood before and the step
settles another id. -/
theorem stands_concat (history : List Step) (step : Step) (record : Record) :
    Stands (history ++ [step]) record
      ↔ step = .wrote record ∨ (Stands history record ∧ ¬step.Settles record.id) :=
  lastStep_concat history step (.wrote record)

/-! ## The latest records -/

/-- What a step makes of the records that are kept by id. -/
def Step.apply (records : Entries Record) : Step → Entries Record
  | ⟨.write record, .ok _⟩ => records.put record.id record
  | ⟨.write _, .error _⟩ => records
  | ⟨.erase record, _⟩ => records.without record.id

/-- The records that a history leaves, by id. -/
def latest (history : List Step) : Entries Record := history.foldl Step.apply []

theorem latest_concat (history : List Step) (step : Step) :
    latest (history ++ [step]) = step.apply (latest history) := by
  rw [latest, List.foldl_concat, latest]

/-- Records are kept by id: each under its own id, and no two under the same one. -/
structure KeptById (records : Entries Record) : Prop where
  own : ∀ entry ∈ records, entry.1 = entry.2.id
  nodup : records.names.Nodup

theorem KeptById.get?_eq_some_iff {records : Entries Record} (h : KeptById records)
    {id : String} {record : Record} :
    records.get? id = some record ↔ id = record.id ∧ record ∈ records.map (·.2) := by
  rw [Entries.get?_eq_some_iff_mem h.nodup, List.mem_map]
  constructor
  · intro hmem
    exact ⟨h.own _ hmem, _, hmem, rfl⟩
  · rintro ⟨rfl, entry, hmem, rfl⟩
    rw [← h.own entry hmem]
    exact hmem

/-- A list of records with different ids is kept by id. -/
theorem KeptById.of_ids {records : List Record} (h : (records.map (·.id)).Nodup) :
    KeptById (records.map fun record => (record.id, record)) := by
  refine ⟨?_, ?_⟩
  · intro entry hentry
    obtain ⟨record, -, rfl⟩ := List.mem_map.mp hentry
    rfl
  · rw [Entries.names, List.map_map]
    exact h

theorem KeptById.nodup_ids {records : Entries Record} (h : KeptById records) :
    ((records.map (·.2)).map (·.id)).Nodup := by
  have hids : (records.map (·.2)).map (·.id) = records.names := by
    rw [List.map_map]
    exact List.map_congr_left fun entry hentry => (h.own entry hentry).symm
  rw [hids]
  exact h.nodup

theorem KeptById.apply {records : Entries Record} (h : KeptById records) (step : Step) :
    KeptById (step.apply records) := by
  obtain ⟨change, outcome⟩ := step
  cases change with
  | write written =>
    cases outcome with
    | error fault => exact h
    | ok _ =>
      have hnodup : (records.put written.id written).names.Nodup :=
        Entries.nodup_names_alter h.nodup _ _
      -- an entry is the one that was put, or it was there under its own id
      refine ⟨fun entry hentry => ?_, hnodup⟩
      have hget := (Entries.get?_eq_some_iff_mem hnodup).mpr hentry
      rw [Entries.get?_put] at hget
      split at hget
      case isTrue hid => rw [← hid, Option.some.inj hget]
      case isFalse => exact h.own entry (Entries.mem_of_get?_eq_some hget)
  | erase erased =>
    -- deleting takes entries away and changes none
    refine ⟨fun entry hentry => h.own entry ?_, Entries.nodup_names_without h.nodup _⟩
    exact (List.mem_filter.mp hentry).1

theorem keptById_latest (history : List Step) : KeptById (latest history) := by
  induction history using List.reverseRecOn with
  | nil => exact ⟨by simp [latest], List.nodup_nil⟩
  | append_singleton history step ih =>
    rw [latest_concat]
    exact ih.apply step

/-- **The records that are gathered are the ones that stand.** -/
theorem get?_latest_iff (history : List Step) (record : Record) :
    (latest history).get? record.id = some record ↔ Stands history record := by
  -- from the last step back: it wrote under the record's id, deleted it, or left it alone
  induction history using List.reverseRecOn with
  | nil => simp [latest, not_stands_nil]
  | append_singleton history step ih =>
    rw [latest_concat, stands_concat, ← ih]
    obtain ⟨change, outcome⟩ := step
    cases change with
    | write written =>
      cases outcome with
      | error fault => simp [Step.apply, Step.wrote, Step.Settles]
      | ok _ =>
        rw [Step.apply, Entries.get?_put]
        by_cases hid : written.id = record.id
        · simp [Step.wrote, Step.Settles, hid]
        · have hne : written ≠ record := by
            rintro rfl
            exact hid rfl
          simp [Step.wrote, Step.Settles, hid, hne]
    | erase erased =>
      rw [Step.apply, Entries.get?_without]
      by_cases hid : erased.id = record.id
      · simp [Step.wrote, Step.Settles, hid]
      · simp [Step.wrote, Step.Settles, hid]

theorem mem_latest_iff (history : List Step) (record : Record) :
    record ∈ (latest history).map (·.2) ↔ Stands history record := by
  rw [← get?_latest_iff, (keptById_latest history).get?_eq_some_iff]
  exact (and_iff_right rfl).symm

/-- Records with different ids that were written one after the other are all kept. -/
theorem latest_wrote {records : List Record} (h : (records.map (·.id)).Nodup) :
    latest (records.map .wrote) = records.map fun record => (record.id, record) := by
  rw [← Entries.ofPairs_eq_self (KeptById.of_ids h).nodup, latest, Entries.ofPairs,
    List.foldl_map, List.foldl_map]
  rfl

end SheetRecall.Memory
