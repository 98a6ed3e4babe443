import SheetRecall.Memory.Records
import SheetRecall.Proofs.Store.Account
import SheetRecall.Proofs.Task

/-!
# Changes of Records

What writing and deleting a record do to the account behind a memory.  A record that is refused
leaves the account as it is, since everything that can be wrong with it is found before the store
is asked; deleting a record never fails in an index that is there.

## Main statements
- `upsert_cases`: a record is refused, for one of four reasons, or its document is written.
- `delete_cases`: the record's document is dropped, if there is one.
-/

namespace SheetRecall.Memory

open SheetRecall.Store SheetRecall.Task

variable {m : Memory} {index : String} {record : Record} {s : Session}

/-! ## Writing -/

/-- Learning the vector size of an index does not change the account. -/
theorem keeps_vectorSize (m : Memory) (index : String) :
    Keeps Session.account (m.vectorSize index) := by
  refine Keeps.get.bind fun s => ?_
  split
  -- a size that was learnt before is given back, and nothing changes at all
  case h_1 => exact Keeps.pure _
  case h_2 =>
    refine (Keeps.ofExcept _).bind fun container => (Keeps.ofExcept _).bind fun size => ?_
    have hsizes : Keeps Session.account
        (modify fun s : Session => { s with sizes := s.sizes.put index size }) :=
      Keeps.modify fun _ => rfl
    have hnotice : ∀ notices, Keeps Session.account (report notices) := fun _ _ => rfl
    split
    case isTrue => exact (hnotice _).bind fun _ => hsizes.bind fun _ => Keeps.pure _
    case isFalse => exact hsizes.bind fun _ => Keeps.pure _

theorem perform_changeAccount_of_ok {change : Account → Except Fault Account} {account : Account}
    (h : change s.account = .ok account) :
    perform (changeAccount change) s = (.ok (), { s with account }) := by
  rw [changeAccount, perform_get_bind, h]
  rfl

theorem perform_changeAccount_of_error {change : Account → Except Fault Account} {fault : Fault}
    (h : change s.account = .error fault) :
    perform (changeAccount change) s = (.error fault, s) := by
  rw [changeAccount, perform_get_bind, h]
  rfl

/-- Why a record is not written. -/
inductive Refused (m : Memory) (index : String) (record : Record) (s : Session) (fault : Fault) :
    Prop where
  /-- The vector size of the index cannot be told. -/
  | size (h : (perform (m.vectorSize index) s).1 = .error fault)
  /-- The vector does not fit. -/
  | vector {size : Value} (hsize : (perform (m.vectorSize index) s).1 = .ok size)
      (h : fits record index size = .error fault)
  /-- There is no document for the record. -/
  | document (h : m.codec.encode record = .error fault)
  /-- The store does not take the document. -/
  | store {document : Fields} (h : s.account.upsert m.database index document = .error fault)

/-- The record has a document, its vector fits, and the account takes the document. -/
def Written (m : Memory) (index : String) (record : Record) (s : Session) (account : Account) :
    Prop :=
  ∃ size encoded, (perform (m.vectorSize index) s).1 = .ok size
    ∧ fits record index size = .ok () ∧ m.codec.encode record = .ok encoded
    ∧ s.account.upsert m.database index encoded.document = .ok account

/-- A record is refused and the account stays as it is, or the vector fits and the document is
written. -/
theorem upsert_cases (m : Memory) (index : String) (record : Record) (s : Session) :
    (∃ fault s', perform (m.upsert index record) s = (.error fault, s') ∧ s'.account = s.account
        ∧ Refused m index record s fault)
      ∨ ∃ s', perform (m.upsert index record) s = (.ok record.id, s')
        ∧ Written m index record s s'.account := by
  -- each step may fail, and before the last one none touches the account
  have hkeep := keeps_vectorSize m index s
  rcases hsize : perform (m.vectorSize index) s with ⟨fault | size, s₁⟩
  · rw [hsize] at hkeep
    refine Or.inl ⟨fault, s₁, ?_, hkeep, .size (by rw [hsize])⟩
    rw [upsert, perform_bind, hsize]
  rw [hsize] at hkeep
  have hsizeOk : (perform (m.vectorSize index) s).1 = .ok size := by rw [hsize]
  rw [upsert, perform_bind_of_ok hsize]
  cases hfits : fits record index size with
  | error fault =>
    refine Or.inl ⟨fault, s₁, ?_, hkeep, .vector hsizeOk hfits⟩
    rw [perform_bind, perform_ofExcept]
  | ok _ =>
  rw [perform_bind_of_ok (perform_ofExcept _ s₁)]
  cases hencode : m.codec.encode record with
  | error fault =>
    refine Or.inl ⟨fault, s₁, ?_, hkeep, .document hencode⟩
    rw [perform_bind, perform_ofExcept]
  | ok encoded =>
  rw [perform_bind_of_ok (perform_ofExcept _ s₁)]
  let reported := s₁.report encoded.notices
  have hreported : perform (report encoded.notices) s₁ = (.ok (), reported) := rfl
  have haccount : reported.account = s.account := hkeep
  rw [perform_bind_of_ok hreported]
  cases hupsert : s.account.upsert m.database index encoded.document with
  | error fault =>
    have hrefused : reported.account.upsert m.database index encoded.document = .error fault := by
      rw [haccount, hupsert]
    refine Or.inl ⟨fault, reported, ?_, haccount, .store hupsert⟩
    rw [perform_bind, perform_changeAccount_of_error hrefused]
  | ok account =>
    have hwritten : reported.account.upsert m.database index encoded.document = .ok account := by
      rw [haccount, hupsert]
    refine Or.inr ⟨{ reported with account }, ?_, size, encoded, hsizeOk, hfits, hencode, hupsert⟩
    rw [perform_bind_of_ok (perform_changeAccount_of_ok hwritten)]
    rfl

/-- The vector has the size that the index declares, if it declares one, and finite numbers. -/
def VectorFits (m : Memory) (index : String) (record : Record) (s : Session) : Prop :=
  ∃ size, (perform (m.vectorSize index) s).1 = .ok size
    ∧ (size.isNull = true ∨ size.same (.int record.vector.length) = true)
    ∧ record.vector.all Decimal.isFinite = true

theorem fits_eq_ok_iff {size : Value} :
    fits record index size = .ok ()
      ↔ (size.isNull = true ∨ size.same (.int record.vector.length) = true)
        ∧ record.vector.all Decimal.isFinite = true := by
  rw [fits]
  cases size.isNull <;> cases size.same (.int record.vector.length) <;>
    cases record.vector.all Decimal.isFinite <;> simp

theorem VectorFits.of_written {account : Account} (h : Written m index record s account) :
    VectorFits m index record s := by
  obtain ⟨size, -, hsize, hfits, -⟩ := h
  exact ⟨size, hsize, fits_eq_ok_iff.mp hfits⟩

/-- A record whose vector does not fit is refused, and the account stays as it is. -/
theorem upsert_of_not_fits (h : ¬VectorFits m index record s) :
    ∃ fault s', perform (m.upsert index record) s = (.error fault, s')
      ∧ s'.account = s.account := by
  rcases upsert_cases m index record s with ⟨fault, s', hperform, haccount, -⟩ | ⟨s', -, hwritten⟩
  · exact ⟨fault, s', hperform, haccount⟩
  · exact absurd (VectorFits.of_written hwritten) h

/-- In an index that is there, a record that has a document is written if its vector fits. -/
theorem upsert_of_fits {c : Container} (hindex : s.account.container m.database index = .ok c)
    {encoded : Encoded} (hencode : m.codec.encode record = .ok encoded)
    (h : VectorFits m index record s) :
    ∃ s', perform (m.upsert index record) s = (.ok record.id, s') := by
  rcases upsert_cases m index record s with ⟨fault, -, -, -, hrefused⟩ | ⟨s', hperform, -⟩
  · obtain ⟨size, hsize, hfits⟩ := h
    cases hrefused with
    | size hnone => exact absurd (hsize.symm.trans hnone) (by simp)
    | vector hsize' hunfit =>
      obtain rfl := Except.ok.inj (hsize.symm.trans hsize')
      exact absurd ((fits_eq_ok_iff.mpr hfits).symm.trans hunfit) (by simp)
    | document hnone => exact absurd (hencode.symm.trans hnone) (by simp)
    | store hnone =>
      obtain ⟨account, haccount, -⟩ := Account.exists_upsert hindex _
      exact absurd (haccount.symm.trans hnone) (by simp)
  · exact ⟨s', hperform⟩

/-! ## Deleting -/

/-- A record is deleted, or it is not there and nothing happens; deleting never fails. -/
theorem delete_cases {c : Container} (h : s.account.container m.database index = .ok c)
    (record : Record) :
    let found := c.delete? (Ident.encode record.id) (m.codec.partition record)
    ∃ s', perform (m.delete index record) s = (.ok (), s')
      ∧ s'.account.container m.database index = .ok (found.getD c) ∧ (found = none → s' = s) := by
  intro found
  rcases Account.delete_cases h (Ident.encode record.id) (m.codec.partition record) with
    ⟨hnone, message, hdelete⟩ | ⟨c', account, hsome, hdelete, hafter⟩
  · -- the store finds nothing under the key, and its fault is swallowed
    refine ⟨s, ?_, ?_, fun _ => rfl⟩
    · rw [delete, perform_get_bind]
      simp only [hdelete]
      rfl
    · simp only [found, hnone]
      exact h
  · refine ⟨{ s with account }, ?_, ?_, fun hnone => ?_⟩
    · rw [delete, perform_get_bind]
      simp only [hdelete]
      rfl
    · simp only [found, hsome]
      exact hafter
    · exact absurd (hsome.symm.trans hnone) (by simp)

end SheetRecall.Memory
