import Mathlib.Logic.Function.Basic
import SheetRecall.Proofs.Document.Selected
import SheetRecall.Proofs.Memory.Records

/-!
# Vector Sizes that Several Memories Remember

An index declares the size of its vectors.  A memory asks for it once, or takes the size that it
made the index with, and from then on checks vectors by what it remembers.  Memories that share a
database may make an index that is there already, or delete one that another remembers, so what is
remembered need not be what is declared.  It is, as long as the index is not made with another size
than it declares or than the other memories remember.

## Layers
- `vectorSize_outcome`, `upsert_outcome`: what a vector is checked by, and what comes of it.
- `coherent_create_iff`, `coherent_create_of_ne`, `coherent_drop`, `coherent_write`: which turns
  keep what is remembered of an index in step with what it declares.
- `coherent_takeAll`: so do runs of such turns.
- `declared_size_checked`: after such turns vectors are checked by the declared size.
- `remade_index_mischecked`: a run with another turn, after which they are not.
-/

namespace SheetRecall.Memory

open SheetRecall.Store SheetRecall.Task

variable {m : Memory} {index : String} {record : Record} {s : Session}

/-! ## What a vector is checked by -/

/-- The vector size that the container of an index declares; null for none. -/
def declared (account : Account) (database index : String) : Except Fault Value := do
  declaredSize (← account.container database index).properties

theorem declared_of_container {account : Account} {database : String} {c : Container}
    (h : account.container database index = .ok c) :
    declared account database index = declaredSize c.properties := by
  simp only [declared, h, bind, Except.bind]

theorem vectorSize_of_remembered {size : Value} (h : s.sizes.get? index = some size) :
    perform (m.vectorSize index) s = (.ok size, s) := by
  rw [vectorSize, perform_get_bind]
  simp only [h]
  rfl

/-- A memory that remembers no size asks the index, and remembers what the index declares. -/
theorem vectorSize_of_forgotten (h : s.sizes.get? index = none) :
    ∃ s', perform (m.vectorSize index) s = (declared s.account m.database index, s')
      ∧ s'.sizes = match declared s.account m.database index with
        | .ok size => s.sizes.put index size
        | .error _ => s.sizes := by
  rw [vectorSize, perform_get_bind]
  simp only [h]
  -- nothing is remembered, so the index is asked, and only a size that it declares is put down
  cases hcontainer : s.account.container m.database index with
  | error fault =>
    have hdeclared : declared s.account m.database index = .error fault := by
      simp only [declared, hcontainer, bind, Except.bind]
    rw [hdeclared]
    exact ⟨s, rfl, rfl⟩
  | ok c =>
    rw [declared_of_container hcontainer]
    rw [perform_bind_of_ok (perform_ofExcept _ s)]
    cases hsize : declaredSize c.properties with
    | error fault => exact ⟨s, rfl, rfl⟩
    | ok size =>
      rw [perform_bind_of_ok (perform_ofExcept _ s)]
      -- with a warning or without, null is remembered like any size
      split
      case isTrue => exact ⟨_, rfl, rfl⟩
      case isFalse => exact ⟨_, rfl, rfl⟩

theorem vectorSize_outcome (m : Memory) (index : String) (s : Session) :
    (perform (m.vectorSize index) s).1
      = (s.sizes.get? index).elim (declared s.account m.database index) .ok := by
  cases h : s.sizes.get? index with
  | some size => rw [vectorSize_of_remembered h, Option.elim_some]
  | none =>
    obtain ⟨s', hperform, -⟩ := vectorSize_of_forgotten (m := m) h
    rw [hperform, Option.elim_none]

/-- A memory learns the sizes that indexes declare, and no others. -/
theorem remembered_vectorSize {other : String} {known : Value}
    (h : (perform (m.vectorSize index) s).2.sizes.get? other = some known) :
    s.sizes.get? other = some known
      ∨ index = other ∧ declared s.account m.database index = .ok known := by
  -- a size that is remembered already is returned and changes nothing
  cases hremembered : s.sizes.get? index with
  | some size =>
    rw [vectorSize_of_remembered hremembered] at h
    exact Or.inl h
  | none =>
    obtain ⟨s', hperform, hsizes⟩ := vectorSize_of_forgotten (m := m) hremembered
    rw [hperform, hsizes] at h
    cases hdeclared : declared s.account m.database index with
    | error fault =>
      rw [hdeclared] at h
      exact Or.inl h
    | ok size =>
      simp only [hdeclared, Entries.get?_put] at h
      split at h
      case isTrue hsame => exact Or.inr ⟨hsame, congrArg Except.ok (Option.some.inj h)⟩
      case isFalse => exact Or.inl h

/-- Of a write, only the question for the size changes what is remembered. -/
theorem sizes_upsert (m : Memory) (index : String) (record : Record) (s : Session) :
    (perform (m.upsert index record) s).2.sizes = (perform (m.vectorSize index) s).2.sizes := by
  have hreport : ∀ notices, Keeps Session.sizes (report notices) := fun _ _ => rfl
  have hchange : ∀ change, Keeps Session.sizes (changeAccount change) := fun change =>
    Keeps.get.bind fun s => (Keeps.ofExcept _).bind fun account => Keeps.modify fun _ => rfl
  rw [upsert, perform_bind]
  rcases perform (m.vectorSize index) s with ⟨fault | size, s₁⟩
  · rfl
  · exact (Keeps.ofExcept _).bind (fun _ => (Keeps.ofExcept _).bind fun encoded =>
      (hreport _).bind fun _ => (hchange _).bind fun _ => Keeps.pure _) s₁

/-- In an index that is there, a record is written if its vector fits and it has a document;
otherwise the first of the two reasons is told. -/
theorem upsert_outcome {c : Container} (hindex : s.account.container m.database index = .ok c)
    {size : Value} (hsize : (perform (m.vectorSize index) s).1 = .ok size) (record : Record) :
    (perform (m.upsert index record) s).1
      = (do fits record index size; let _ ← m.codec.encode record; return record.id) := by
  -- asking for the size leaves the account as it is
  have hkeep := keeps_vectorSize m index s
  rcases hperform : perform (m.vectorSize index) s with ⟨outcome, s₁⟩
  rw [hperform] at hkeep hsize
  obtain rfl : outcome = .ok size := hsize
  rw [upsert, perform_bind_of_ok hperform]
  -- the vector is checked before the document is made, so its fault is the one that is told
  cases fits record index size with
  | error fault =>
    rw [perform_bind, perform_ofExcept]
    rfl
  | ok _ =>
  rw [perform_bind_of_ok (perform_ofExcept _ s₁)]
  cases m.codec.encode record with
  | error fault =>
    rw [perform_bind, perform_ofExcept]
    rfl
  | ok encoded =>
  rw [perform_bind_of_ok (perform_ofExcept _ s₁)]
  obtain ⟨account, hwritten, -⟩ := Account.exists_upsert hindex encoded.document
  let reported := s₁.report encoded.notices
  have hreported : perform (report encoded.notices) s₁ = (.ok (), reported) := rfl
  have hchanged : reported.account.upsert m.database index encoded.document = .ok account := by
    rw [← hwritten]
    exact congrArg (fun a : Account => a.upsert m.database index encoded.document) hkeep
  rw [perform_bind_of_ok hreported, perform_bind_of_ok (perform_changeAccount_of_ok hchanged)]
  rfl

/-! ## Several memories -/

/-- What several memories work on: one account, and the sizes that each of them remembers. -/
structure Shared (ι : Type) where
  account : Account
  sizes : ι → Entries Value

/-- What a memory may be told to do. -/
inductive Deed where
  /-- An index is made, for vectors of a size. -/
  | create (index : String) (size : Int)
  /-- An index is deleted. -/
  | drop (index : String)
  /-- A record is written into an index. -/
  | write (index : String) (record : Record)

/-- Does what the memory is told. -/
def Deed.task (m : Memory) : Deed → Task Session Unit
  | create index size => m.createIndex index (.int size)
  | drop index => m.deleteIndex index
  | write index record => do
    let _ ← m.upsert index record
    return

/-- The turn of one of the memories. -/
structure Turn (ι : Type) where
  actor : ι
  deed : Deed

/-- A turn that was taken, with what came of it. -/
structure Taken (ι : Type) where
  before : Shared ι
  turn : Turn ι
  outcome : Except Fault Unit
  after : Shared ι

variable {ι : Type} [DecidableEq ι]

/-- The memory leaves the account as its session has it, and remembers what the session does. -/
def Shared.pass (w : Shared ι) (i : ι) (s : Session) : Shared ι :=
  ⟨s.account, Function.update w.sizes i s.sizes⟩

@[simp]
theorem Shared.pass_account (w : Shared ι) (i : ι) (s : Session) :
    (w.pass i s).account = s.account := rfl

@[simp]
theorem Shared.pass_sizes_self (w : Shared ι) (i : ι) (s : Session) :
    (w.pass i s).sizes i = s.sizes := by
  simp only [Shared.pass, Function.update_self]

theorem Shared.pass_sizes_of_ne (w : Shared ι) {i j : ι} (h : j ≠ i) (s : Session) :
    (w.pass i s).sizes j = w.sizes j := by
  simp only [Shared.pass, Function.update_of_ne h]

/-- Takes a turn: the memory works on the account with what it remembers itself. -/
def take (objects : ι → Memory) (w : Shared ι) (turn : Turn ι) : Taken ι :=
  let session : Session := { account := w.account, sizes := w.sizes turn.actor }
  let (outcome, s) := (turn.deed.task (objects turn.actor)).perform session
  ⟨w, turn, outcome, w.pass turn.actor s⟩

/-- Takes one turn after the other, whatever comes of them. -/
def takeAll (objects : ι → Memory) : List (Turn ι) → Shared ι → List (Taken ι)
  | [], _ => []
  | turn :: rest, w =>
    let taken := take objects w turn
    taken :: takeAll objects rest taken.after

/-! ## Coherence -/

/-- If the index is there, what is remembered of it is what it declares. -/
def InStep (database index : String) (account : Account) (sizes : Entries Value) : Prop :=
  ∀ known c, sizes.get? index = some known → account.container database index = .ok c →
    declaredSize c.properties = .ok known

/-- What all memories remember of the index is in step with it. -/
def Coherent (database index : String) (w : Shared ι) : Prop :=
  ∀ i, InStep database index w.account (w.sizes i)

/-- The index is made with the size that it declares, if it is there already, and that the other
memories remember, if they remember one. -/
structure Agreed (database index : String) (w : Shared ι) (i : ι) (size : Int) : Prop where
  declared : ∀ c, w.account.container database index = .ok c →
    declaredSize c.properties = .ok (.int size)
  remembered : ∀ j, j ≠ i → ∀ known, (w.sizes j).get? index = some known → known = .int size

variable {objects : ι → Memory} {database : String} {w : Shared ι} {i : ι}

theorem inStep_nil (database index : String) (account : Account) :
    InStep database index account [] := by
  intro known c hknown
  cases hknown

/-- What is in step stays so while an index that is there keeps its properties. -/
theorem InStep.of_properties {account after : Account} {sizes : Entries Value}
    (h : InStep database index account sizes)
    (hafter : ∀ c, after.container database index = .ok c →
      ∃ b, account.container database index = .ok b ∧ c.properties = b.properties) :
    InStep database index after sizes := by
  intro known c hknown hc
  obtain ⟨b, hb, hproperties⟩ := hafter c hc
  rw [hproperties]
  exact h known b hknown hb

/-- After a turn, what the memory's session remembers and what the others did is in step. -/
theorem coherent_pass_iff (w : Shared ι) (i : ι) (s : Session) :
    Coherent database index (w.pass i s)
      ↔ InStep database index s.account s.sizes
        ∧ ∀ j, j ≠ i → InStep database index s.account (w.sizes j) := by
  constructor
  · -- passing the turn to one object changes what that object remembers, and the account
    intro h
    refine ⟨?_, fun j hj => ?_⟩
    · have hown := h i
      rwa [Shared.pass_account, Shared.pass_sizes_self] at hown
    · have hother := h j
      rwa [Shared.pass_account, Shared.pass_sizes_of_ne w hj] at hother
  · rintro ⟨hown, hothers⟩ j
    rw [Shared.pass_account]
    by_cases hj : j = i
    · rw [hj, Shared.pass_sizes_self]
      exact hown
    · rw [Shared.pass_sizes_of_ne w hj]
      exact hothers j hj

/-! ## Making an index -/

/-- A new index declares the size that it was made with. -/
theorem declaredSize_newProperties (index : String) (size : Int) :
    declaredSize (Account.newProperties index (.int size)) = .ok (.int size) := rfl

/-- The account after an index was made, unless it was there already. -/
def withIndex (account : Account) (database index : String) (size : Int) : Account :=
  (account.createDatabase database).createContainer database index
    (Account.newProperties index (.int size))

theorem take_create_after (hshared : ∀ i, (objects i).database = database) (w : Shared ι) (i : ι)
    (made : String) (size : Int) :
    (take objects w ⟨i, .create made size⟩).after
      = w.pass i
        { account := withIndex w.account database made size
          sizes := (w.sizes i).put made (.int size)
          events := [.created (settings made (.int size))] } := by
  rw [← hshared i]
  rfl

/-- **Making an index keeps what is remembered of it in step with it exactly if the size is
agreed.** -/
theorem coherent_create_iff (hshared : ∀ i, (objects i).database = database) (w : Shared ι)
    (i : ι) (index : String) (size : Int) :
    Coherent database index (take objects w ⟨i, .create index size⟩).after
      ↔ Agreed database index w i size := by
  have hfound : (withIndex w.account database index size).container database index
      = .ok ((w.account.container database index).toOption.getD
        { properties := Account.newProperties index (.int size) }) := by
    rw [withIndex, Account.container_createContainer, if_pos rfl]
  have hremembered : ((w.sizes i).put index (.int size)).get? index = some (.int size) := by
    rw [Entries.get?_put, if_pos rfl]
  rw [take_create_after hshared, coherent_pass_iff]
  constructor
  · rintro ⟨hown, hothers⟩
    -- the memory itself remembers the size now, so that is what the index declares
    have hdeclared := hown (.int size) _ hremembered hfound
    refine ⟨fun c hc => ?_, fun j hj known hknown => ?_⟩
    · rw [hc] at hdeclared
      exact hdeclared
    · have hother := hothers j hj known _ hknown hfound
      exact Except.ok.inj (hother.symm.trans hdeclared)
  · intro hagreed
    -- one that was there keeps its properties, and they declare the size already
    have hdeclared : ∀ c, (withIndex w.account database index size).container database index
        = .ok c → declaredSize c.properties = .ok (.int size) := by
      intro c hc
      obtain rfl := Except.ok.inj (hfound.symm.trans hc)
      cases hbefore : w.account.container database index with
      | error fault => exact declaredSize_newProperties index size
      | ok b => exact hagreed.declared b hbefore
    refine ⟨fun known c hknown hc => ?_, fun j hj known c hknown hc => ?_⟩
    · rw [hdeclared c hc, ← Option.some.inj (hremembered.symm.trans hknown)]
    · rw [hdeclared c hc, hagreed.remembered j hj known hknown]

/-- Making another index changes neither what is remembered of this one nor what it declares. -/
theorem coherent_create_of_ne (hshared : ∀ i, (objects i).database = database)
    (h : Coherent database index w) {made : String} (hmade : made ≠ index) (size : Int) :
    Coherent database index (take objects w ⟨i, .create made size⟩).after := by
  have hfound : (withIndex w.account database made size).container database index
      = w.account.container database index := by
    rw [withIndex, Account.container_createContainer, if_neg hmade]
  rw [take_create_after hshared, coherent_pass_iff]
  refine ⟨fun known c hknown hc => ?_, fun j _ known c hknown hc => ?_⟩
  · rw [Entries.get?_put, if_neg hmade] at hknown
    exact h i known c hknown (hfound.symm.trans hc)
  · exact h j known c hknown (hfound.symm.trans hc)

/-! ## Deleting an index -/

/-- An index that is deleted is forgotten by the memory itself, and the others stay. -/
theorem exists_perform_deleteIndex (m : Memory) (index : String) (s : Session) :
    ∃ s', perform (m.deleteIndex index) s = (.ok (), s') ∧ s'.sizes = s.sizes.without index
      ∧ ∀ other c, s'.account.container m.database other = .ok c →
        s.account.container m.database other = .ok c := by
  rw [deleteIndex, perform_get_bind]
  rcases Account.deleteContainer_cases s.account m.database index with
    ⟨message, hdelete⟩ | ⟨account, hdelete, hfound⟩
  · simp only [hdelete]
    exact ⟨_, rfl, rfl, fun other c hc => hc⟩
  · simp only [hdelete]
    exact ⟨_, rfl, rfl, fun other c hc => (hfound other c hc).2⟩

/-- **Deleting an index keeps what is remembered of every index in step with it**: whoever
remembers an index that is gone has nothing to be out of step with. -/
theorem coherent_drop (hshared : ∀ i, (objects i).database = database)
    (h : Coherent database index w) (dropped : String) :
    Coherent database index (take objects w ⟨i, .drop dropped⟩).after := by
  obtain ⟨s', hperform, hsizes, hfound⟩ :=
    exists_perform_deleteIndex (objects i) dropped { account := w.account, sizes := w.sizes i }
  have hafter : (take objects w ⟨i, .drop dropped⟩).after = w.pass i s' := by
    simp only [take, Deed.task, hperform]
  rw [hshared i] at hfound
  have hstep : ∀ j, InStep database index s'.account (w.sizes j) := fun j =>
    (h j).of_properties fun c hc => ⟨c, hfound index c hc, rfl⟩
  rw [hafter, coherent_pass_iff]
  refine ⟨fun known c hknown hc => ?_, fun j _ => hstep j⟩
  -- the memory itself remembers less than before
  rw [hsizes, Entries.get?_without] at hknown
  split at hknown
  case isTrue => cases hknown
  case isFalse => exact hstep i known c hknown hc

/-! ## Writing a record -/

/-- Writing a record leaves every index there, with the properties that it had. -/
theorem properties_of_upsert {other : String} {c : Container}
    (h : (perform (m.upsert index record) s).2.account.container m.database other = .ok c) :
    ∃ b, s.account.container m.database other = .ok b ∧ c.properties = b.properties := by
  rcases upsert_cases m index record s with
    ⟨fault, s', hperform, haccount, -⟩ | ⟨s', hperform, size, encoded, -, -, -, hwritten⟩
  · rw [hperform, haccount] at h
    exact ⟨c, h, rfl⟩
  · rw [hperform] at h
    obtain ⟨b, hb, hfound, helsewhere⟩ := Account.container_of_upsert hwritten
    by_cases hsame : index = other
    · subst hsame
      obtain rfl := Except.ok.inj (hfound.symm.trans h)
      exact ⟨b, hb, rfl⟩
    · rw [helsewhere.container other hsame] at h
      exact ⟨c, h, rfl⟩

theorem perform_write (m : Memory) (index : String) (record : Record) (s : Session) :
    perform (Deed.task m (.write index record)) s
      = ((perform (m.upsert index record) s).1.map fun _ => (),
        (perform (m.upsert index record) s).2) := by
  rw [Deed.task, perform_bind]
  rcases perform (m.upsert index record) s with ⟨fault | id, s'⟩
  · rfl
  · rfl

/-- **Writing a record keeps what is remembered of every index in step with it**: what a memory
learns on the way is what the index declares. -/
theorem coherent_write (hshared : ∀ i, (objects i).database = database)
    (h : Coherent database index w) (written : String) (record : Record) :
    Coherent database index (take objects w ⟨i, .write written record⟩).after := by
  let s : Session := { account := w.account, sizes := w.sizes i }
  let s' := (perform ((objects i).upsert written record) s).2
  have hafter : (take objects w ⟨i, .write written record⟩).after = w.pass i s' := by
    simp only [take, perform_write]
    rfl
  -- a write changes documents only, never what the index declares
  have hproperties : ∀ c, s'.account.container database index = .ok c →
      ∃ b, w.account.container database index = .ok b ∧ c.properties = b.properties := by
    intro c hc
    rw [← hshared i] at hc ⊢
    exact properties_of_upsert hc
  have hstep : ∀ j, InStep database index s'.account (w.sizes j) := fun j =>
    (h j).of_properties hproperties
  rw [hafter, coherent_pass_iff]
  refine ⟨fun known c hknown hc => ?_, fun j _ => hstep j⟩
  -- a size is remembered from before, or asked of the index in this turn
  rw [sizes_upsert] at hknown
  rcases remembered_vectorSize hknown with hknown | ⟨rfl, hdeclared⟩
  · exact hstep i known c hknown hc
  · obtain ⟨b, hb, hsame⟩ := hproperties c hc
    rw [hsame, ← declared_of_container hb, ← hshared i]
    exact hdeclared

/-! ## Runs -/

/-- If the turn makes the index, it makes it with an agreed size. -/
def Taken.Orderly (database index : String) (taken : Taken ι) : Prop :=
  ∀ size, taken.turn.deed = .create index size →
    Agreed database index taken.before taken.turn.actor size

theorem coherent_take (hshared : ∀ i, (objects i).database = database)
    (h : Coherent database index w) {turn : Turn ι}
    (horderly : (take objects w turn).Orderly database index) :
    Coherent database index (take objects w turn).after := by
  obtain ⟨i, deed⟩ := turn
  cases deed with
  | create made size =>
    by_cases hmade : made = index
    · subst hmade
      exact (coherent_create_iff hshared _ _ _ size).mpr (horderly size rfl)
    · exact coherent_create_of_ne hshared h hmade size
  | drop dropped => exact coherent_drop hshared h dropped
  | write written record => exact coherent_write hshared h written record

/-- **As long as turns are orderly, what is remembered of an index is in step with it.** -/
theorem coherent_takeAll (hshared : ∀ i, (objects i).database = database)
    (h : Coherent database index w) {turns : List (Turn ι)} {earlier later : List (Taken ι)}
    {taken : Taken ι} (hrun : takeAll objects turns w = earlier ++ taken :: later)
    (horderly : ∀ other ∈ earlier, other.Orderly database index) :
    Coherent database index taken.before ∧ taken = take objects taken.before taken.turn := by
  -- along the turns, with what was taken before shrinking by one at each
  induction turns generalizing w earlier with
  | nil => exact absurd hrun (by simp [takeAll])
  | cons turn rest ih =>
    rw [takeAll] at hrun
    cases earlier with
    | nil =>
      obtain ⟨hfirst, -⟩ := List.cons.inj hrun
      rw [← hfirst]
      exact ⟨h, rfl⟩
    | cons first others =>
      obtain ⟨rfl, hrest⟩ := List.cons.inj hrun
      have hfirst := coherent_take hshared h (horderly _ List.mem_cons_self)
      exact ih hfirst hrest fun other hother => horderly other (List.mem_cons_of_mem _ hother)

/-! ## Main statement -/

theorem same_int_iff (n k : Int) : (Value.int n).same (.int k) = true ↔ n = k := by
  have hsame : (Value.int n).same (.int k) = (some (Ord.compare n k) == some .eq) := rfl
  rw [hsame, beq_iff_eq, Option.some.injEq]
  exact Int.compare_eq_eq

/-- In step, a memory checks a vector by the size that the index declares. -/
theorem vectorSize_of_inStep {c : Container} (h : InStep m.database index s.account s.sizes)
    (hindex : s.account.container m.database index = .ok c) :
    (perform (m.vectorSize index) s).1 = declaredSize c.properties := by
  rw [vectorSize_outcome]
  cases hremembered : s.sizes.get? index with
  | none => rw [Option.elim_none, declared_of_container hindex]
  | some known => rw [Option.elim_some, h known c hremembered hindex]

theorem fits_int (record : Record) (index : String) (n : Int) :
    fits record index (.int n)
      = if (record.vector.length : Int) = n then
          if record.vector.all Decimal.isFinite then .ok () else .error (finiteFault record)
        else .error (sizeFault record index (.int n)) := by
  rw [fits]
  by_cases hlength : (record.vector.length : Int) = n
  · have hsame := (same_int_iff n record.vector.length).mpr hlength.symm
    rw [hsame, if_pos hlength]
    rfl
  · have hsame := mt (same_int_iff n record.vector.length).mp (Ne.symm hlength)
    rw [Bool.not_eq_true] at hsame
    rw [hsame, if_neg hlength]
    rfl

/-- In step, a memory writes a record if its vector has the declared size and finite numbers, and
it has a document. -/
theorem upsert_inStep {c : Container} {n : Int} (h : InStep m.database index s.account s.sizes)
    (hindex : s.account.container m.database index = .ok c)
    (hdeclared : declaredSize c.properties = .ok (.int n)) (record : Record) :
    (perform (m.upsert index record) s).1
      = if (record.vector.length : Int) = n then
          if record.vector.all Decimal.isFinite then (m.codec.encode record).map fun _ => record.id
          else .error (finiteFault record)
        else .error (sizeFault record index (.int n)) := by
  have hsize := (vectorSize_of_inStep h hindex).trans hdeclared
  rw [upsert_outcome hindex hsize, fits_int]
  split
  case isTrue =>
    split
    case isTrue => cases m.codec.encode record <;> rfl
    case isFalse => rfl
  case isFalse => rfl

/-- A record that is not written leaves the account as it is. -/
theorem account_of_upsert_error {fault : Fault}
    (h : (perform (m.upsert index record) s).1 = .error fault) :
    (perform (m.upsert index record) s).2.account = s.account := by
  rcases upsert_cases m index record s with ⟨_, s', hperform, haccount, -⟩ | ⟨s', hperform, -⟩
  · rw [hperform]
    exact haccount
  · rw [hperform] at h
    cases h

/-- **Vectors are checked by the size that the index declares**, in every run of several memories,
as long as the index is not made with another size than it declares or than the other memories
remember.  A vector that is written has that size; one that has it and holds finite numbers is never
refused for its size, and is written unless its record has no document; one that has another size is
refused for that, and the account stays as it is. -/
theorem declared_size_checked (hshared : ∀ i, (objects i).database = database)
    (hstart : Coherent database index w) {turns : List (Turn ι)} {earlier later : List (Taken ι)}
    {taken : Taken ι} (hrun : takeAll objects turns w = earlier ++ taken :: later)
    (horderly : ∀ other ∈ earlier, other.Orderly database index)
    (hwrite : taken.turn.deed = .write index record) {c : Container} {n : Int}
    (hindex : taken.before.account.container database index = .ok c)
    (hdeclared : declaredSize c.properties = .ok (.int n)) :
    (taken.outcome = .ok () → record.vector.length = n)
      ∧ (record.vector.length = n → record.vector.all Decimal.isFinite = true →
        (∀ size, taken.outcome ≠ .error (sizeFault record index size))
          ∧ (¬(objects taken.turn.actor).codec.Unwritten record → taken.outcome = .ok ()))
      ∧ (record.vector.length ≠ n → taken.outcome = .error (sizeFault record index (.int n))
        ∧ taken.after.account = taken.before.account) := by
  obtain ⟨hcoherent, hself⟩ := coherent_takeAll hshared hstart hrun horderly
  let m := objects taken.turn.actor
  let s : Session :=
    { account := taken.before.account, sizes := taken.before.sizes taken.turn.actor }
  -- a turn is the upsert of its object, in the account that the turn found
  have houtcome : taken.outcome = (perform (m.upsert index record) s).1.map fun _ => () := by
    refine (congrArg Taken.outcome hself).trans ?_
    simp only [take, hwrite, perform_write]
    rfl
  have hafter : taken.after.account = (perform (m.upsert index record) s).2.account := by
    refine (congrArg (fun taken => taken.after.account) hself).trans ?_
    simp only [take, hwrite, perform_write]
    rfl
  rw [← hshared taken.turn.actor] at hindex
  have hstep : InStep m.database index s.account s.sizes := by
    rw [hshared taken.turn.actor]
    exact hcoherent taken.turn.actor
  have hupsert := upsert_inStep hstep hindex hdeclared record
  refine ⟨fun hok => ?_, fun hlength hfinite => ?_, fun hlength => ?_⟩
  · -- a vector of another length is refused, so a write that went through had the right one
    by_contra hlength
    rw [houtcome, hupsert, if_neg hlength] at hok
    cases hok
  · rw [if_pos hlength, if_pos hfinite] at hupsert
    rw [houtcome, hupsert]
    -- the one other reason to refuse the record is that it has no document
    obtain ⟨hrefused, hencodes⟩ := m.codec.encode_cases record
    by_cases hunwritten : m.codec.Unwritten record
    · obtain ⟨fault, hencode, hkind⟩ := hrefused hunwritten
      rw [hencode]
      refine ⟨fun size hfault => ?_, fun hnot => absurd hunwritten hnot⟩
      rcases hkind with rfl | rfl <;> cases hfault
    · obtain ⟨others, notices, hencode⟩ := hencodes hunwritten
      rw [hencode]
      refine ⟨fun size hfault => ?_, fun _ => rfl⟩
      cases hfault
  · rw [if_neg hlength] at hupsert
    rw [houtcome, hafter, hupsert]
    exact ⟨rfl, account_of_upsert_error hupsert⟩

/-! ## Made twice -/

/-- A record with so many components. -/
def halves (count : Nat) : Record := ⟨"r", List.replicate count 0.5, [], []⟩

/-- Nothing is there, and nothing is remembered. -/
def untouched (ι : Type) : Shared ι := ⟨{}, fun _ => []⟩

theorem coherent_untouched (ι : Type) (database index : String) :
    Coherent database index (untouched ι) := fun _ => inStep_nil database index {}

/-- One memory makes an index for vectors of two components, another writes such a vector. -/
theorem declared_size_checked_shared :
    let objects : Bool → Memory := fun _ => .plain "d"
    let made := take objects (untouched Bool) ⟨false, .create "notes" 2⟩
    (take objects made.after ⟨true, .write "notes" (halves 2)⟩).outcome = .ok () := by
  intro objects made
  let turns : List (Turn Bool) :=
    [⟨false, .create "notes" 2⟩, ⟨true, .write "notes" (halves 2)⟩]
  have hrun : takeAll objects turns (untouched Bool)
      = [made] ++ take objects made.after ⟨true, .write "notes" (halves 2)⟩ :: [] := rfl
  -- nothing happened to the index before it was made
  have horderly : ∀ other ∈ [made], other.Orderly "d" "notes" := by
    intro other hother size hdeed
    obtain rfl := List.mem_singleton.mp hother
    cases hdeed
    -- the index is not there yet, and nobody remembers it
    refine ⟨fun c hc => ?_, fun j _ known hknown => ?_⟩
    · cases hc
    · cases hknown
  have hchecked := declared_size_checked (fun _ => rfl) (coherent_untouched Bool "d" "notes") hrun
    horderly rfl (c := ⟨Account.newProperties "notes" (.int 2), [], [], none⟩) rfl
    (declaredSize_newProperties "notes" 2)
  have hfinite : (halves 2).vector.all Decimal.isFinite = true := by rfl
  exact (hchecked.2.1 rfl hfinite).2 fun hdeep => hdeep.1 rfl

/-- An index for vectors of three components is made again, for two: it still declares three, and
the memory writes a vector of two components and refuses one of three. -/
theorem remade_index_mischecked :
    let objects : Unit → Memory := fun _ => .plain "d"
    let turns : List (Turn Unit) := [⟨(), .create "notes" 3⟩, ⟨(), .create "notes" 2⟩,
      ⟨(), .write "notes" (halves 2)⟩, ⟨(), .write "notes" (halves 3)⟩]
    let run := takeAll objects turns (untouched Unit)
    run.map (·.outcome)
        = [.ok (), .ok (), .ok (), .error (sizeFault (halves 3) "notes" (.int 2))]
      ∧ run.map (fun taken => declared taken.after.account "d" "notes")
        = [.ok (.int 3), .ok (.int 3), .ok (.int 3), .ok (.int 3)] := by
  constructor
  · with_unfolding_all rfl
  · with_unfolding_all rfl

end SheetRecall.Memory
