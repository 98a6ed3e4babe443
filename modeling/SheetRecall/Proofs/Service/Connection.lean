import Mathlib.Data.List.Induction
import SheetRecall.Proofs.Histories
import SheetRecall.Service.Connection

/-!
# What a Connection Tells

A service connects to its store and closes the connection, in any order and as often as it likes;
a connect may lack the key to the store, and the store may refuse.  What the connection tells
afterwards is settled by one call: the last one that got past the key, for the client and the
database, and the last one that succeeded, for the name of the database.  So the name is told where
client and database are not, once a connection that was made is closed or lost.

## Layers
- `Connected`, `Reached`: the connects that settle what is told, said of the calls alone.
- `tells_make`: one call keeps the connection in step with them.
- `tells_run`: so does every list of calls.
- `connection_tells`: what is told by client, database and name after any calls.
-/

namespace SheetRecall.Service.Connection

/-! ## Calls -/

/-- A call that makes or ends the connection. -/
inductive Call where
  /-- To connect, if the store gives this answer when it is asked for the database. -/
  | connect (settings : StoreSettings) (answer : Except Fault Unit)
  | close

namespace Call

/-- Makes the call: its answer, and the connection after it. -/
def make (c : Connection) : Call → Except Fault Unit × Connection
  | connect settings answer => c.connect (fun _ => answer) settings
  | close => (.ok (), c.close)

/-- The settings have a key. -/
def HasKey (settings : StoreSettings) : Prop := (settings.apiKey.getD "").isEmpty = false

/-- The call settles whether there is a connection: it ends it, or connects with a key. -/
def Settles : Call → Prop
  | connect settings _ => HasKey settings
  | close => True

/-- The call is a connect with a key, and the store has the database. -/
def Succeeds : Call → Prop
  | connect settings answer => HasKey settings ∧ answer = .ok ()
  | close => False

end Call

/-- The connection after some calls. -/
def run (calls : List Call) : Connection := calls.foldl (fun c call => (call.make c).2) {}

/-- The last connect that got past the key succeeded with these settings, and no close followed. -/
def Connected (calls : List Call) (settings : StoreSettings) : Prop :=
  Call.HasKey settings ∧ LastStep Call.Settles calls (.connect settings (.ok ()))

/-- The last connect that succeeded did so with these settings. -/
def Reached (calls : List Call) (settings : StoreSettings) : Prop :=
  Call.HasKey settings ∧ LastStep Call.Succeeds calls (.connect settings (.ok ()))

/-! ## One call -/

variable {c : Connection} {calls : List Call} {settings : StoreSettings}

theorem connect_without_key (reach : StoreSettings → Except Fault Unit)
    (h : ¬Call.HasKey settings) : (c.connect reach settings).2 = c := by
  rw [connect, if_pos (Bool.not_eq_false _ ▸ h)]

theorem connect_of_reached {reach : StoreSettings → Except Fault Unit} (h : Call.HasKey settings)
    (hreach : reach settings = .ok ()) :
    (c.connect reach settings).2
      = { closed := c.closed ++ [false], current := some c.closed.length,
          database := some settings.database, name := some settings.database } := by
  rw [connect, if_neg (Bool.eq_false_iff.mp h), hreach]

theorem connect_of_refused {reach : StoreSettings → Except Fault Unit} {fault : Fault}
    (h : Call.HasKey settings) (hreach : reach settings = .error fault) :
    (c.connect reach settings).2
      = { c with closed := c.closed ++ [true], current := none, database := none } := by
  rw [connect, if_neg (Bool.eq_false_iff.mp h), hreach]

/-- What a connection holds is settled by the connects among the calls. -/
structure Tells (calls : List Call) (c : Connection) : Prop where
  /-- The database is that of the connect that stands. -/
  database : ∀ db, c.database = some db ↔ ∃ settings, Connected calls settings
    ∧ settings.database = db
  /-- There is a client exactly if there is a database. -/
  current : c.current = none ↔ c.database = none
  /-- The name is that of the last connect that succeeded. -/
  name : ∀ name, c.name = some name ↔ ∃ settings, Reached calls settings
    ∧ settings.database = name

/-- Without calls there is nothing to tell. -/
theorem tells_nil : Tells [] {} := by
  refine ⟨fun db => ?_, by simp, fun name => ?_⟩
  · simp [Connected, not_lastStep_nil]
  · simp [Reached, not_lastStep_nil]

theorem connected_concat (call : Call) :
    Connected (calls ++ [call]) settings
      ↔ (Call.HasKey settings ∧ call = .connect settings (.ok ()))
        ∨ (Connected calls settings ∧ ¬call.Settles) := by
  rw [Connected, Connected, lastStep_concat, and_or_left, and_assoc]

theorem reached_concat (call : Call) :
    Reached (calls ++ [call]) settings
      ↔ (Call.HasKey settings ∧ call = .connect settings (.ok ()))
        ∨ (Reached calls settings ∧ ¬call.Succeeds) := by
  rw [Reached, Reached, lastStep_concat, and_or_left, and_assoc]

/-- A call that does not succeed connects to nothing. -/
private theorem not_connects {call : Call} (h : ¬call.Succeeds) (settings : StoreSettings) :
    ¬(Call.HasKey settings ∧ call = .connect settings (.ok ())) := by
  rintro ⟨hkey, rfl⟩
  exact h ⟨hkey, rfl⟩

section OneCall

variable {c' : Connection} {call : Call} (h : Tells calls c) (hfails : ¬call.Succeeds)

include h hfails

/-- A call that settles nothing leaves everything to the calls before it. -/
theorem Tells.concat_of_not_settles (hsettles : ¬call.Settles) : Tells (calls ++ [call]) c := by
  refine ⟨fun db => ?_, h.current, fun name => ?_⟩
  · simp only [h.database, connected_concat, not_connects hfails, false_or, hsettles,
      not_false_eq_true, and_true]
  · simp only [h.name, reached_concat, not_connects hfails, false_or, hfails, not_false_eq_true,
      and_true]

/-- A call that ends the connection leaves the name to the calls before it. -/
theorem Tells.concat_of_settles (hsettles : call.Settles) (hcurrent : c'.current = none)
    (hdatabase : c'.database = none) (hname : c'.name = c.name) : Tells (calls ++ [call]) c' := by
  refine ⟨fun db => ?_, by simp [hcurrent, hdatabase], fun name => ?_⟩
  · simp only [hdatabase, reduceCtorEq, connected_concat, not_connects hfails, hsettles, not_true,
      and_false, or_false, false_and, exists_false]
  · simp only [hname, h.name, reached_concat, not_connects hfails, false_or, hfails,
      not_false_eq_true, and_true]

end OneCall

/-- **One call keeps what the connection holds in step with the calls.** -/
theorem tells_make (h : Tells calls c) (call : Call) :
    Tells (calls ++ [call]) (call.make c).2 := by
  cases call with
  | connect asked answer =>
    rw [Call.make]
    by_cases hkey : Call.HasKey asked
    case neg =>
      -- without the key nothing is done
      rw [connect_without_key _ hkey]
      exact h.concat_of_not_settles (fun hsucceeds => hkey hsucceeds.1) hkey
    case pos =>
      cases answer with
      | ok _ =>
        -- the connect is the last one that counts, for the database and for the name
        rw [connect_of_reached hkey rfl]
        refine ⟨fun db => ?_, by simp, fun name => ?_⟩
        · simp [connected_concat, Call.Settles, hkey]
        · simp [reached_concat, Call.Succeeds, hkey]
      | error fault =>
        rw [connect_of_refused hkey rfl]
        exact h.concat_of_settles (fun hsucceeds => nomatch hsucceeds.2) hkey rfl rfl rfl
  | close =>
    rw [Call.make, close]
    split
    case h_1 hnone =>
      exact h.concat_of_settles id trivial hnone (h.current.mp hnone) rfl
    case h_2 => exact h.concat_of_settles id trivial rfl rfl rfl

/-! ## Every list of calls -/

/-- **What a connection holds after some calls is what the calls settle.** -/
theorem tells_run (calls : List Call) : Tells calls (run calls) := by
  induction calls using List.reverseRecOn with
  | nil => exact tells_nil
  | append_singleton calls call ih =>
    rw [run, List.foldl_concat]
    exact tells_make ih call

/-- A connect that stands is one that succeeded. -/
theorem Connected.reached (h : Connected calls settings) : Reached calls settings := by
  refine ⟨h.1, h.2.mono fun call hsucceeds => ?_⟩
  cases call with
  | connect asked answer => exact hsucceeds.1
  | close => exact hsucceeds.elim

/-! ## What is told -/

/-- Either everything is told, or nothing is. -/
def Agree (c : Connection) : Prop :=
  (∃ n db name, c.client = .ok n ∧ c.databaseInUse = .ok db ∧ c.databaseName = .ok name)
    ∨ (c.client = .error noClient ∧ c.databaseInUse = .error noDatabase
      ∧ c.databaseName = .error noDatabase)

/-- After a connection is closed, its client and its database are told no more, but its name is. -/
theorem name_told_after_close :
    let c := run [.connect ⟨"https://store", some "key", "memory"⟩ (.ok ()), .close]
    c.client = .error noClient ∧ c.databaseInUse = .error noDatabase
      ∧ c.databaseName = .ok "memory" ∧ ¬c.Agree := by
  intro c
  have hclient : c.client = .error noClient := rfl
  have hname : c.databaseName = .ok "memory" := rfl
  refine ⟨hclient, rfl, hname, ?_⟩
  rintro (⟨n, db, name, hn, -, -⟩ | ⟨-, -, hnone⟩)
  · exact absurd (hclient.symm.trans hn) (by simp)
  · exact absurd (hname.symm.trans hnone) (by simp)

/-- A part that is settled by a connect is there unless there is no such connect. -/
private theorem eq_none_iff_of_settled {part : Option String} {settled : StoreSettings → Prop}
    (h : ∀ value, part = some value ↔ ∃ settings, settled settings ∧ settings.database = value) :
    part = none ↔ ∀ settings, ¬settled settings := by
  rw [Option.eq_none_iff_forall_ne_some]
  constructor
  · intro hnone settings hsettled
    exact hnone _ ((h _).mpr ⟨settings, hsettled, rfl⟩)
  · intro hnever value hvalue
    obtain ⟨settings, hsettled, -⟩ := (h value).mp hvalue
    exact hnever settings hsettled

section Told

variable (h : Tells calls c)

include h

theorem Tells.client_iff : (∃ n, c.client = .ok n) ↔ ∃ settings, Connected calls settings := by
  have hsome : (∃ n, c.client = .ok n) ↔ ¬c.current = none := by
    rw [client]
    cases c.current <;> simp
  rw [hsome, h.current, eq_none_iff_of_settled h.database, not_forall_not]

theorem Tells.databaseInUse_iff (db : String) :
    c.databaseInUse = .ok db ↔ ∃ settings, Connected calls settings ∧ settings.database = db := by
  rw [← h.database, databaseInUse]
  cases c.database <;> simp

theorem Tells.databaseName_iff (name : String) :
    c.databaseName = .ok name ↔ ∃ settings, Reached calls settings ∧ settings.database = name := by
  rw [← h.name, databaseName]
  cases c.name <;> simp

/-- Without a connection, neither the client nor the database is told. -/
theorem Tells.not_connected (hnever : ∀ settings, ¬Connected calls settings) :
    c.client = .error noClient ∧ c.databaseInUse = .error noDatabase := by
  have hdatabase := (eq_none_iff_of_settled h.database).mpr hnever
  rw [client, databaseInUse, h.current.mpr hdatabase, hdatabase]
  exact ⟨rfl, rfl⟩

theorem Tells.not_reached (hnever : ∀ settings, ¬Reached calls settings) :
    c.databaseName = .error noDatabase := by
  rw [databaseName, (eq_none_iff_of_settled h.name).mpr hnever]
  rfl

end Told

/-- **The client and the database are told exactly while a connection stands**, that is from a
connect that got past the key and succeeded up to the next one that got past it, or a close.  The
name of the database is that of the last connect that succeeded, whether it stands or not.  So the
three agree while a connection stands, and as long as none was made. -/
theorem connection_tells (calls : List Call) :
    let c := run calls
    ((∃ n, c.client = .ok n) ↔ ∃ settings, Connected calls settings)
      ∧ (∀ db, c.databaseInUse = .ok db
        ↔ ∃ settings, Connected calls settings ∧ settings.database = db)
      ∧ (∀ name, c.databaseName = .ok name
        ↔ ∃ settings, Reached calls settings ∧ settings.database = name)
      ∧ (∀ settings, Connected calls settings → c.databaseName = .ok settings.database)
      ∧ ((∀ settings, ¬Connected calls settings) →
        c.client = .error noClient ∧ c.databaseInUse = .error noDatabase)
      ∧ ((∀ settings, ¬Reached calls settings) → c.databaseName = .error noDatabase)
      ∧ (c.Agree
        ↔ (∃ settings, Connected calls settings) ∨ ∀ settings, ¬Reached calls settings) := by
  intro c
  -- all of it is read off one invariant of the calls made so far
  have h : Tells calls c := tells_run calls
  have hname : ∀ settings, Connected calls settings → c.databaseName = .ok settings.database :=
    fun settings hconnected => (h.databaseName_iff _).mpr ⟨settings, hconnected.reached, rfl⟩
  refine ⟨h.client_iff, h.databaseInUse_iff, h.databaseName_iff, hname, h.not_connected,
    h.not_reached, ?_⟩
  -- the two names agree when there is a client, or when neither name is known
  constructor
  · rintro (⟨n, -, -, hn, -, -⟩ | ⟨-, -, hnone⟩)
    · exact Or.inl (h.client_iff.mp ⟨n, hn⟩)
    · refine Or.inr fun settings hreached => ?_
      have htold := (h.databaseName_iff _).mpr ⟨settings, hreached, rfl⟩
      exact absurd (hnone.symm.trans htold) (by simp)
  · rintro (⟨settings, hconnected⟩ | hnever)
    · obtain ⟨n, hn⟩ := h.client_iff.mpr ⟨settings, hconnected⟩
      exact Or.inl ⟨n, _, _, hn, (h.databaseInUse_iff _).mpr ⟨settings, hconnected, rfl⟩,
        hname settings hconnected⟩
    · obtain ⟨hclient, hdatabase⟩ :=
        h.not_connected fun settings hconnected => hnever settings hconnected.reached
      exact Or.inr ⟨hclient, hdatabase, h.not_reached hnever⟩

end SheetRecall.Service.Connection
