import SheetRecall.Memory.Search
import SheetRecall.Proofs.Document.Selected
import SheetRecall.Proofs.Memory.History
import SheetRecall.Proofs.Memory.Records
import SheetRecall.Proofs.Store.Reading

/-!
# The Last Writer Wins

A memory without rows keeps records by id.  Its index simulates the map from ids to the records
that were written last (`latest`): the documents are those of the records in the map, step by step
and for every run, and listing the index gives the records back.

## Layers
- `sameKey_commonParts`, `putDocument_documents`, `filter_documents`: a document is addressed by
  the id of its record, so the container changes as the map does.
- `mirrors_make`: one change is made in the index as it is in the map.
- `mirrors_run`: so is every run of changes.
- `last_writer_wins`: what the index holds after a run, and what listing it gives.
-/

namespace SheetRecall.Memory

open SheetRecall.Store SheetRecall.Task

variable {m : Memory} {index : String} {s : Session}

/-! ## Documents by id -/

theorem textAt_id (codec : Codec) (record : Record) :
    Container.textAt (codec.commonParts record) Part.id = some (Ident.encode record.id) := rfl

theorem textAt_file (codec : Codec) (record : Record) :
    Container.textAt (codec.commonParts record) Part.file = some (codec.partition record) := rfl

section Documents

variable {codec : Codec} (hplain : codec.rows = none)

include hplain

theorem encode_of_plain (record : Record) :
    codec.encode record = .ok { document := codec.commonParts record } := by
  rw [Codec.encode, hplain]

theorem partition_of_plain (record : Record) : codec.partition record = record.id := by
  rw [Codec.partition, hplain]

theorem decode_commonParts {record : Record} (hkeys : record.payload.names.Nodup) :
    codec.decode true (.map (codec.commonParts record)) = .ok record := by
  have hcommon := Codec.decodeCommon_commonParts codec record [] hkeys true
  rw [List.append_nil] at hcommon
  simp only [Codec.decode, hplain, hcommon, bind, Except.bind, if_true]

/-- Documents of two records have one key exactly if the records have one id, whatever the key
of documents is made of. -/
theorem sameKey_commonParts (keying : Keying) (record other : Record) :
    Container.sameKey keying (codec.commonParts record) (codec.commonParts other)
      = decide (record.id = other.id) := by
  rw [Bool.eq_iff_iff]
  -- the partition is the id, so it never tells more than the code of the id does
  cases keying with
  | byId => simp [Container.sameKey, textAt_id, Ident.encode_injective.eq_iff]
  | byPartition =>
    simp [Container.sameKey, textAt_id, textAt_file, partition_of_plain hplain,
      Ident.encode_injective.eq_iff]

theorem isAt_commonParts (record other : Record) :
    Container.isAt (Ident.encode record.id) (codec.partition record) (codec.commonParts other)
      = decide (other.id = record.id) := by
  rw [Bool.eq_iff_iff]
  simp [Container.isAt, textAt_id, textAt_file, partition_of_plain hplain,
    Ident.encode_injective.eq_iff]

/-- Putting a document among those of the records is putting the record among them. -/
theorem putDocument_documents (keying : Keying) {records : Entries Record}
    (hown : ∀ entry ∈ records, entry.1 = entry.2.id) (record : Record) :
    Container.putDocument keying (records.map fun entry => codec.commonParts entry.2)
        (codec.commonParts record)
      = (records.put record.id record).map fun entry => codec.commonParts entry.2 := by
  induction records with
  | nil => rfl
  | cons entry rest ih =>
    obtain ⟨id, first⟩ := entry
    obtain rfl : id = first.id := hown _ List.mem_cons_self
    have hrest := ih fun other hother => hown other (List.mem_cons_of_mem _ hother)
    rw [List.map_cons, Container.putDocument, sameKey_commonParts hplain, Entries.put,
      Entries.alter]
    by_cases hid : first.id = record.id
    · simp [hid]
    · simp [hid, hrest, Entries.put]

/-- Deleting the document of a record is dropping the record with its id. -/
theorem filter_documents {records : Entries Record}
    (hown : ∀ entry ∈ records, entry.1 = entry.2.id) (record : Record) :
    (records.map fun entry => codec.commonParts entry.2).filter
        (fun document =>
          !Container.isAt (Ident.encode record.id) (codec.partition record) document)
      = (records.without record.id).map fun entry => codec.commonParts entry.2 := by
  rw [List.filter_map, Entries.without]
  congr 1
  apply List.filter_congr
  -- a document is at the place of the record if it is kept under the id of the record
  intro entry hentry
  rw [Function.comp_apply, isAt_commonParts hplain, hown entry hentry]
  simp

end Documents

/-! ## Simulation -/

/-- The index holds the documents of the records, in their order. -/
def Mirrors (m : Memory) (index : String) (records : Entries Record) (s : Session) : Prop :=
  ∃ c, s.account.container m.database index = .ok c
    ∧ c.documents = records.map fun entry => m.codec.commonParts entry.2

/-- **One change is made in the index as it is in the map of the latest records.** -/
theorem mirrors_make (hplain : m.codec.rows = none) {records : Entries Record}
    (hkept : KeptById records) (h : Mirrors m index records s) (change : Change) :
    let made := perform (change.make m index) s
    Mirrors m index (Step.apply records ⟨change, made.1⟩) made.2 := by
  intro made
  obtain ⟨c, hc, hdocuments⟩ := h
  cases change with
  | write record =>
    rcases upsert_cases m index record s with
      ⟨fault, s', hperform, haccount, -⟩ | ⟨s', hperform, size, encoded, -, -, hencode, hupsert⟩
    · -- a refused record changes neither side
      have hmade : made = (.error fault, s') := by
        simp only [made, Change.make, perform_bind, hperform]
      rw [hmade]
      refine ⟨c, ?_, hdocuments⟩
      rw [haccount]
      exact hc
    · -- a written record takes the place of the one with its id, on both sides
      have hmade : made = (.ok (), s') := by
        simp only [made, Change.make, perform_bind, hperform]
        rfl
      obtain rfl := Except.ok.inj ((encode_of_plain hplain record).symm.trans hencode)
      obtain ⟨after, hafter, hcontainer⟩ := Account.exists_upsert hc (m.codec.commonParts record)
      obtain rfl := Except.ok.inj (hafter.symm.trans hupsert)
      rw [hmade]
      refine ⟨_, hcontainer, ?_⟩
      rw [Container.upsert, hdocuments, putDocument_documents hplain _ hkept.own]
      rfl
  | erase record =>
    -- a record that is not there is dropped on neither side, so both cases are one
    obtain ⟨s', hperform, hcontainer, -⟩ := delete_cases hc record
    have hmade : made = (.ok (), s') := hperform
    rw [hmade]
    refine ⟨_, hcontainer, ?_⟩
    rw [Container.documents_getD_delete?, hdocuments, filter_documents hplain hkept.own]
    rfl

/-- **After a run of changes the index holds the latest records**, if it held them before. -/
theorem mirrors_run (hplain : m.codec.rows = none) {history : List Step}
    (h : Mirrors m index (latest history) s) (changes : List Change) :
    Mirrors m index (latest (history ++ (run m index changes s).1)) (run m index changes s).2 := by
  induction changes generalizing history s with
  | nil =>
    rw [run, List.append_nil]
    exact h
  | cons change rest ih =>
    have hmade := mirrors_make hplain (keptById_latest history) h change
    simp only [← latest_concat] at hmade
    have hrest := ih hmade
    rw [List.append_assoc] at hrest
    exact hrest

/-! ## Listing -/

/-- The rows answer a query for so many documents: as many as there are up to the limit, none of
them twice, and of each the selected parts. -/
structure TopOf (selected : List String) (limit : Nat) (documents : List Fields)
    (rows : List Value) : Prop where
  length_eq : rows.length = min limit documents.length
  subperm : rows.Subperm (documents.map fun document => .map (document.restrict selected))

theorem TopOf.perm {selected : List String} {limit : Nat} {documents : List Fields}
    {rows : List Value} (h : TopOf selected limit documents rows)
    (hlimit : documents.length ≤ limit) :
    rows.Perm (documents.map fun document => .map (document.restrict selected)) := by
  apply h.subperm.perm_of_length_le
  rw [List.length_map, h.length_eq, Nat.min_eq_right hlimit]

/-- The query for records without a condition. -/
def listing (m : Memory) (limit : Nat) : Query.Statement :=
  Query.list m.codec (Filter.compile m.normalize Query.defaultItem []) (.int limit) true

/-- An index that holds the documents of records is listed as those records. -/
theorem list_documents (hplain : m.codec.rows = none) {records : List Record} {rows : List Value}
    (hkeys : ∀ record ∈ records, record.payload.names.Nodup) {limit : Nat}
    (hanswer : s.account.answer m.database index (listing m limit).text = ⟨rows, none⟩)
    (hrows : rows.Perm ((records.map m.codec.commonParts).map fun document =>
      .map (document.restrict (m.codec.selected true)))) :
    ∃ reading s', perform (m.list index [] (.int limit) true none) s = (.ok reading, s')
      ∧ reading.ending = .finished ∧ reading.items.Perm records := by
  let found (row : Value) : Option Record := (m.codec.decode true row).toOption
  -- the plain codec reads back what it wrote, and needs only the parts that are asked for
  have hread : ∀ record ∈ records, m.codec.decode true
      (.map ((m.codec.commonParts record).restrict (m.codec.selected true))) = .ok record := by
    intro record hrecord
    rw [Codec.decode_restrict]
    exact decode_commonParts hplain (hkeys record hrecord)
  -- every row is read as one of the records
  have hitem : ∀ row ∈ rows, (m.codec.decode true row).map some = .ok (found row) := by
    intro row hrow
    have hmem := hrows.subset hrow
    rw [List.map_map, List.mem_map] at hmem
    obtain ⟨record, hrecord, rfl⟩ := hmem
    simp only [Function.comp_apply, found, hread record hrecord]
    rfl
  have hfound : ((records.map m.codec.commonParts).map fun document =>
      (Value.map (document.restrict (m.codec.selected true)))).filterMap found = records := by
    rw [List.map_map, List.filterMap_map]
    refine (List.filterMap_congr fun record hrecord => ?_).trans List.filterMap_some
    simp only [Function.comp_apply, found, hread record hrecord]
    rfl
  obtain ⟨pages, hpages⟩ := read_all hitem
  -- what is listed is what is read from the answer, to its end
  have hlist : ∃ s', perform (m.list index [] (.int limit) true none) s
      = (.ok ((s.account.answer m.database index (listing m limit).text).toPages.read
          (fun row => (m.codec.decode true row).map some) none), s') := ⟨_, rfl⟩
  obtain ⟨s', hperform⟩ := hlist
  refine ⟨_, s', hperform, ?_, ?_⟩
  · rw [hanswer, hpages]
  · rw [hanswer, hpages]
    have hitems := hrows.filterMap found
    rw [hfound] at hitems
    exact hitems

/-! ## Main statement -/

/-- The container holds one document for each record, the one that the record is written as. -/
structure Holds (codec : Codec) (c : Container) (records : List Record) : Prop where
  ids : (records.map (·.id)).Nodup
  documents : List.Forall₂ (fun record document => codec.encode record = .ok { document })
    records c.documents

theorem holds_iff (hplain : m.codec.rows = none) {c : Container} {records : List Record} :
    Holds m.codec c records
      ↔ (records.map (·.id)).Nodup ∧ records.map m.codec.commonParts = c.documents := by
  -- the plain codec has one document for each record, so "encodes to" is an equation
  have hencode : (fun record document => m.codec.encode record = .ok { document })
      = fun record document => m.codec.commonParts record = document := by
    funext record document
    rw [encode_of_plain hplain, Except.ok.injEq, Encoded.mk.injEq]
    simp
  have hdocuments : List.Forall₂ (fun record document => m.codec.encode record = .ok { document })
      records c.documents ↔ records.map m.codec.commonParts = c.documents := by
    rw [hencode, ← List.forall₂_map_left_iff (R := Eq), List.forall₂_eq_eq_eq]
  constructor
  · rintro ⟨hids, hwritten⟩
    exact ⟨hids, hdocuments.mp hwritten⟩
  · rintro ⟨hids, hwritten⟩
    exact ⟨hids, hdocuments.mpr hwritten⟩

/-- A record that stands was there before or was written by one of the changes. -/
theorem Stands.mem_or_mem {start : List Record} {changes : List Change} {record : Record}
    (h : Stands (start.map .wrote ++ (run m index changes s).1) record) :
    record ∈ start ∨ .write record ∈ changes := by
  obtain ⟨before, after, hhistory, -⟩ := h
  have hstep : Step.wrote record ∈ start.map .wrote ++ (run m index changes s).1 := by
    simp [hhistory]
  rcases List.mem_append.mp hstep with hstep | hstep
  · obtain ⟨other, hother, hwrote⟩ := List.mem_map.mp hstep
    obtain rfl : other = record := by simpa [Step.wrote] using hwrote
    exact Or.inl hother
  · have hchange := List.mem_map_of_mem (f := (·.change)) hstep
    rw [map_change_run] at hchange
    exact Or.inr hchange

/-- **The last writer wins.**  Let records be written and deleted in an index, in any order, some of
them refused; records that the index held before count as written first.  Then the index holds one
document for each record that was written and neither replaced nor deleted since, and no other
document, and a query for as many records as there are or more gives these records.  A record whose
vector does not fit is refused and leaves the account as it is, whenever that happens, and so does
deleting a record that is not there. -/
theorem last_writer_wins (hplain : m.codec.rows = none) {c : Container}
    (hindex : s.account.container m.database index = .ok c) {start : List Record}
    (hstart : Holds m.codec c start) (changes : List Change)
    (hkeys : ∀ record, record ∈ start ∨ .write record ∈ changes → record.payload.names.Nodup) :
    let history := start.map .wrote ++ (run m index changes s).1
    let after := (run m index changes s).2
    ∃ c' live, after.account.container m.database index = .ok c' ∧ Holds m.codec c' live
      ∧ (∀ record, record ∈ live ↔ Stands history record)
      ∧ (∀ limit rows, live.length ≤ limit →
        after.account.answer m.database index (listing m limit).text = ⟨rows, none⟩ →
        TopOf (m.codec.selected true) limit c'.documents rows →
        ∃ reading s', perform (m.list index [] (.int limit) true none) after = (.ok reading, s')
          ∧ reading.ending = .finished ∧ reading.items.Perm live)
      ∧ (∀ record, VectorFits m index record after →
        ∃ s', perform (m.upsert index record) after = (.ok record.id, s'))
      ∧ (∀ record, ¬VectorFits m index record after →
        ∃ fault s', perform (m.upsert index record) after = (.error fault, s')
          ∧ s'.account = after.account)
      ∧ (∀ record, (∀ other ∈ live, other.id ≠ record.id) →
        perform (m.delete index record) after = (.ok (), after)) := by
  intro history after
  obtain ⟨hids, hdocuments⟩ := (holds_iff hplain).mp hstart
  -- the index holds the records from before, and so the latest ones after the run
  have hbefore : Mirrors m index (latest (start.map .wrote)) s := by
    refine ⟨c, hindex, ?_⟩
    rw [latest_wrote hids, List.map_map, ← hdocuments]
    rfl
  -- the run is followed on the list of the latest records, which is what the container holds
  obtain ⟨c', hindex', hdocuments'⟩ := mirrors_run hplain hbefore changes
  have hkept := keptById_latest history
  let live := (latest history).map (·.2)
  have hholds : Holds m.codec c' live := by
    refine (holds_iff hplain).mpr ⟨hkept.nodup_ids, ?_⟩
    rw [hdocuments', List.map_map]
    rfl
  have hlive : live.map m.codec.commonParts = c'.documents := ((holds_iff hplain).mp hholds).2
  refine ⟨c', live, hindex', hholds, mem_latest_iff history, ?_, ?_, ?_, ?_⟩
  · intro limit rows hlimit hanswer htop
    have hlive_keys : ∀ record ∈ live, record.payload.names.Nodup := by
      intro record hrecord
      exact hkeys record ((mem_latest_iff history record).mp hrecord).mem_or_mem
    apply list_documents hplain hlive_keys hanswer
    rw [hlive]
    apply htop.perm
    rw [← hlive, List.length_map]
    exact hlimit
  · intro record hfits
    exact upsert_of_fits hindex' (encode_of_plain hplain record) hfits
  · intro record hfits
    exact upsert_of_not_fits hfits
  · -- a record with another id than all of these is not found by the store
    intro record habsent
    obtain ⟨s', hperform, -, hunchanged⟩ := delete_cases hindex' record
    have hnone : c'.delete? (Ident.encode record.id) (m.codec.partition record) = none := by
      rw [Container.delete?_eq_none_iff, ← hlive]
      intro document hdocument
      obtain ⟨other, hother, rfl⟩ := List.mem_map.mp hdocument
      rw [isAt_commonParts hplain, decide_eq_false (habsent other hother)]
    rw [hperform, hunchanged hnone]

/-- A note. -/
def note (id text : String) : Record := ⟨id, [], [], [("text", .text text)]⟩

/-- An account with an empty index for notes, whose vectors have no components. -/
def notes : Session :=
  { account := { keying := .byPartition, databases := [(defaultDatabase, { containers :=
    [("notes", { properties := Account.newProperties "notes" (.int 0) })] })] } }

/-- Of two notes with one id the second is kept: a vector of a size that the index does not
declare is refused, another note is deleted, and deleted again. -/
theorem second_note_kept :
    let changes : List Change := [.write (note "a" "first"), .write (note "b" "other"),
      .write (note "a" "second"), .write ⟨"a", [0.5], [], []⟩, .erase (note "b" "other"),
      .erase (note "b" "other")]
    let after := (run (.plain defaultDatabase) "notes" changes notes).2
    ∃ c, after.account.container defaultDatabase "notes" = .ok c
      ∧ Holds .plain c [note "a" "second"]
      ∧ ∃ reading s', perform ((Memory.plain defaultDatabase).list "notes" [] (.int 5) true none)
          after = (.ok reading, s')
        ∧ reading.ending = .finished ∧ reading.items.Perm [note "a" "second"] := by
  intro changes after
  let c : Container := { properties := Account.newProperties "notes" (.int 0) }
  -- each payload has one key or none, so no key is repeated
  have hkeys : ∀ record, record ∈ [] ∨ .write record ∈ changes → record.payload.names.Nodup := by
    rintro record (hrecord | hrecord)
    · cases hrecord
    · simp only [changes, List.mem_cons, Change.write.injEq, List.not_mem_nil, or_false,
        reduceCtorEq] at hrecord
      rcases hrecord with rfl | rfl | rfl | rfl <;> decide
  have hbefore : notes.account.container defaultDatabase "notes" = .ok c := rfl
  have hempty : Holds .plain c [] := ⟨List.nodup_nil, .nil⟩
  obtain ⟨c', live, hindex, hholds, hlive, hlist, -⟩ :=
    last_writer_wins (m := .plain defaultDatabase) rfl hbefore hempty changes hkeys
  -- the run as it happened, with the short vector refused and the second deletion of nothing
  have hhistory : (run (.plain defaultDatabase) "notes" changes notes).1
      = [.wrote (note "a" "first"), .wrote (note "b" "other"), .wrote (note "a" "second"),
        ⟨.write ⟨"a", [0.5], [], []⟩, .error (sizeFault ⟨"a", [0.5], [], []⟩ "notes" (.int 0))⟩,
        ⟨.erase (note "b" "other"), .ok ()⟩, ⟨.erase (note "b" "other"), .ok ()⟩] := by
    with_unfolding_all rfl
  have hmem : ∀ record, record ∈ live ↔ record ∈ [note "a" "second"] := by
    intro record
    rw [hlive, ← mem_latest_iff, List.map_nil, List.nil_append, hhistory]
    rfl
  -- only the second note under the first id stands
  obtain rfl : live = [note "a" "second"] := by
    apply List.perm_singleton.mp
    have hnodup : live.Nodup := List.Nodup.of_map _ hholds.ids
    exact (List.perm_ext_iff_of_nodup hnodup (List.nodup_singleton _)).mpr hmem
  have hafter : after.account.container defaultDatabase "notes"
      = .ok { c with documents := [Codec.plain.commonParts (note "a" "second")] } := by
    with_unfolding_all rfl
  obtain rfl := Except.ok.inj (hindex.symm.trans hafter)
  have hanswer : after.account.answer defaultDatabase "notes"
      (listing (.plain defaultDatabase) 5).text
      = ⟨[.map (Codec.plain.commonParts (note "a" "second"))], none⟩ := by
    rw [Account.answer, hafter]
    rfl
  refine ⟨_, hafter, hholds, hlist 5 _ (by decide) hanswer ⟨rfl, ?_⟩⟩
  exact List.Perm.subperm (List.Perm.refl _)

end SheetRecall.Memory
