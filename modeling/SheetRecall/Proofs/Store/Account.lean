import SheetRecall.Proofs.Entries
import SheetRecall.Store.Account

/-!
# Documents of an Index

What an account does with one container: the container that was changed is found again, and a
document that is written or deleted is written or deleted there.

## Main statements
- `container_putContainer`: a container that is put is the one that is found.
- `container_createContainer`, `container_deleteContainer`: what is found after a container was made
  or deleted.
- `exists_upsert`: in an index that is there, writing a document succeeds.
- `delete_cases`: deleting a document removes it, or there is none and nothing happens.
-/

namespace SheetRecall.Store

/-! ## Containers -/

/-- After a document is deleted, or not found, none is left at its place. -/
theorem Container.documents_getD_delete? (c : Container) (id partition : String) :
    ((c.delete? id partition).getD c).documents
      = c.documents.filter fun document => !isAt id partition document := by
  unfold delete?
  split
  case isTrue => rfl
  case isFalse hnone =>
    symm
    rw [Option.getD_none, List.filter_eq_self]
    intro document hdocument
    by_contra hat
    refine hnone (List.any_eq_true.mpr ⟨document, hdocument, ?_⟩)
    simpa using hat

theorem Container.delete?_eq_none_iff (c : Container) (id partition : String) :
    c.delete? id partition = none
      ↔ ∀ document ∈ c.documents, isAt id partition document = false := by
  simp [delete?]

/-! ## Accounts -/

namespace Account

variable {account : Account} {name index : String} {c : Container}

theorem container_eq_ok_iff :
    account.container name index = .ok c
      ↔ (account.database name).containers.get? index = some c := by
  unfold container
  split
  case h_1 c' hget => simp [hget]
  case h_2 hget => simp [hget]

/-- An account changes in the named database only. -/
theorem database_change (account : Account) (name other : String) (f : Database → Database) :
    (account.change name f).database other
      = if name = other then f (account.database name) else account.database other := by
  rw [database, change, Entries.get?_alter]
  split
  case isTrue => rfl
  case isFalse => rfl

/-! ## Several containers -/

theorem toOption_container (account : Account) (name index : String) :
    (account.container name index).toOption = (account.database name).containers.get? index := by
  unfold container
  split
  case h_1 c hget => exact hget.symm
  case h_2 hget => exact hget.symm

/-- Of what is in a database, only its containers decide which one is found. -/
theorem container_congr {account other : Account} {name index : String}
    (h : (account.database name).containers.get? index
      = (other.database name).containers.get? index) :
    account.container name index = other.container name index := by
  rw [container, container, h]

/-- A container that is changed is found as it is then, and the others as they were. -/
theorem container_putContainer_eq (account : Account) (name index other : String)
    (f : Option Container → Container) :
    (account.putContainer name index f).container name other
      = if index = other then .ok (f (account.container name index).toOption)
        else account.container name other := by
  have hcontainers : ((account.putContainer name index f).database name).containers.get? other
      = if index = other then some (f ((account.database name).containers.get? index))
        else (account.database name).containers.get? other := by
    rw [putContainer, database_change, if_pos rfl, Entries.get?_alter]
  split
  case isTrue hsame =>
    rw [if_pos hsame] at hcontainers
    rw [toOption_container]
    exact container_eq_ok_iff.mpr hcontainers
  case isFalse hother =>
    rw [if_neg hother] at hcontainers
    exact container_congr hcontainers

theorem container_putContainer (account : Account) (name index : String) (c : Container) :
    (account.putContainer name index fun _ => c).container name index = .ok c := by
  rw [container_putContainer_eq, if_pos rfl]

theorem container_createDatabase (account : Account) (name index : String) :
    (account.createDatabase name).container name index = account.container name index := by
  apply container_congr
  rw [createDatabase, database_change, if_pos rfl]

/-- A container that is made is found with its properties, unless there was one already. -/
theorem container_createContainer (account : Account) (name index other : String)
    (properties : Value) :
    ((account.createDatabase name).createContainer name index properties).container name other
      = if index = other then .ok ((account.container name index).toOption.getD { properties })
        else account.container name other := by
  rw [createContainer, container_putContainer_eq, container_createDatabase,
    container_createDatabase]

/-- A container is deleted and no longer found, or it is not there to be deleted. -/
theorem deleteContainer_cases (account : Account) (name index : String) :
    (∃ message, account.deleteContainer name index = .error (.notFound message))
      ∨ ∃ after, account.deleteContainer name index = .ok after
        ∧ ∀ other c, after.container name other = .ok c →
          index ≠ other ∧ account.container name other = .ok c := by
  simp only [deleteContainer]
  split
  case isFalse => exact Or.inl ⟨_, rfl⟩
  case isTrue =>
    refine Or.inr ⟨_, rfl, fun other c hfound => ?_⟩
    rw [container_eq_ok_iff, database_change, if_pos rfl, Entries.get?_without] at hfound
    split at hfound
    case isTrue => cases hfound
    case isFalse hother => exact ⟨hother, container_eq_ok_iff.mpr hfound⟩

/-- Between two accounts nothing changed but the container of one index. -/
structure SameElsewhere (name index : String) (account after : Account) : Prop where
  keying : after.keying = account.keying
  container : ∀ other, index ≠ other →
    after.container name other = account.container name other

theorem sameElsewhere_refl (name index : String) (account : Account) :
    SameElsewhere name index account account := ⟨rfl, fun _ _ => rfl⟩

theorem sameElsewhere_putContainer (account : Account) (name index : String)
    (f : Option Container → Container) :
    SameElsewhere name index account (account.putContainer name index f) := by
  refine ⟨rfl, fun other hother => ?_⟩
  rw [container_putContainer_eq, if_neg hother]

/-- A document is written into one container, and nothing else changes. -/
theorem container_of_upsert {after : Account} {document : Fields}
    (h : account.upsert name index document = .ok after) :
    ∃ c, account.container name index = .ok c
      ∧ after.container name index = .ok (c.upsert account.keying document)
      ∧ SameElsewhere name index account after := by
  unfold upsert at h
  cases hc : account.container name index with
  | error fault =>
    rw [hc] at h
    cases h
  | ok c =>
    rw [hc] at h
    cases h
    exact ⟨c, rfl, container_putContainer .., sameElsewhere_putContainer ..⟩

/-- A document is deleted from one container, and nothing else changes. -/
theorem sameElsewhere_of_delete {after : Account} {id partition : String}
    (h : account.delete name index id partition = .ok after) :
    SameElsewhere name index account after := by
  -- a deletion that goes through found its index, and the document in it
  unfold delete at h
  cases hc : account.container name index with
  | error fault =>
    rw [hc] at h
    cases h
  | ok c =>
    rw [hc] at h
    simp only [bind, Except.bind] at h
    split at h
    case h_1 =>
      cases h
      exact sameElsewhere_putContainer ..
    case h_2 => cases h

/-- In an index that is there, a document is written. -/
theorem exists_upsert (h : account.container name index = .ok c) (document : Fields) :
    ∃ after, account.upsert name index document = .ok after
      ∧ after.container name index = .ok (c.upsert account.keying document) := by
  refine ⟨account.putContainer name index fun _ => c.upsert account.keying document, ?_, ?_⟩
  · simp only [upsert, h, bind, Except.bind]
  · apply container_putContainer

/-- In an index that is there, a document is deleted, or there is no such document. -/
theorem delete_cases (h : account.container name index = .ok c) (id partition : String) :
    (c.delete? id partition = none
        ∧ ∃ message, account.delete name index id partition = .error (.notFound message))
      ∨ ∃ c' after, c.delete? id partition = some c'
        ∧ account.delete name index id partition = .ok after
        ∧ after.container name index = .ok c' := by
  cases hdelete : c.delete? id partition with
  | none =>
    refine Or.inl ⟨rfl, "Resource Not Found: " ++ id, ?_⟩
    simp only [delete, h, bind, Except.bind, hdelete]
  | some c' =>
    refine Or.inr ⟨c', account.putContainer name index fun _ => c', rfl, ?_, ?_⟩
    · simp only [delete, h, bind, Except.bind, hdelete]
    · apply container_putContainer

end Account

end SheetRecall.Store
