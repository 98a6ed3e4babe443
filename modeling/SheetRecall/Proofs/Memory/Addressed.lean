import SheetRecall.Memory.Search
import SheetRecall.Proofs.Document.Selected
import SheetRecall.Proofs.Memory.History
import SheetRecall.Proofs.Memory.Sizes
import SheetRecall.Proofs.Store.Keyed
import SheetRecall.Proofs.Store.Reading

/-!
# Records that Are Read Address Their Documents

A memory for rows puts a document under the id of its record and the partition that the record's
tags name.  A record that is read back has the same id and the same tags, whatever part of the
document was asked for, so it addresses the document that it came from: deleting it deletes that
document, and writing it replaces that document.  It is written only if the memory holds a size for
the index that admits its vector; a memory that holds another size than the index declares may
refuse it.

## Layers
- `WroteRow.exists_commonParts`, `decode_of_shows`: what was written, and what a row shows of it.
- `exists_row_of_list`, `exists_row_of_search`: records are read from rows.
- `writtenRows_make`, `writtenRows_run`: the documents of an index under changes.
- `delete_addressed`, `upsert_addressed`: what happens to the document of a record that was read.
- `read_record_addresses`: all of it for a record that is listed or found.
- `remade_index_refuses`: a record that is read and refused, after its index was made twice.
-/

namespace SheetRecall.Memory

open SheetRecall.Store SheetRecall.Task

variable {m : Memory} {index : String} {record : Record} {s : Session}

/-! ## Documents of rows -/

theorem partition_of_rows {codec : Codec} (hrows : codec.rows.isSome = true) (record : Record) :
    codec.partition record = record.fileId := by
  obtain ⟨rows, hrows⟩ := Option.isSome_iff_exists.mp hrows
  simp only [Codec.partition, hrows]

/-- The common parts of a document are the same for all codecs for rows. -/
theorem commonParts_congr {codec other : Codec} (hrows : codec.rows.isSome = true)
    (hother : other.rows.isSome = true) (record : Record) :
    codec.commonParts record = other.commonParts record := by
  rw [Codec.commonParts, Codec.commonParts, partition_of_rows hrows, partition_of_rows hother]

theorem key_commonParts {codec : Codec} (hrows : codec.rows.isSome = true) (record : Record)
    (others : Fields) :
    Container.key (codec.commonParts record ++ others)
      = (some (Ident.encode record.id), some record.fileId) := by
  rw [← partition_of_rows hrows record]
  rfl

/-- A memory for rows wrote the document, for a record. -/
def WroteRow (document : Fields) : Prop :=
  ∃ (m : Memory) (index : String) (record : Record) (s s' : Session) (encoded : Encoded),
    m.codec.rows.isSome = true ∧ record.payload.names.Nodup
      ∧ perform (m.upsert index record) s = (.ok record.id, s')
      ∧ m.codec.encode record = .ok encoded ∧ encoded.document = document

/-- A record that was written has a finite vector, and its document holds its common parts. -/
theorem WroteRow.exists_commonParts {document : Fields} (h : WroteRow document) {codec : Codec}
    (hrows : codec.rows.isSome = true) :
    ∃ record others, document = codec.commonParts record ++ others
      ∧ record.payload.names.Nodup ∧ record.vector.all Decimal.isFinite = true := by
  obtain ⟨m, index, record, s, s', encoded, hm, hkeys, hwritten, hencode, rfl⟩ := h
  have hfinite : record.vector.all Decimal.isFinite = true := by
    rcases upsert_cases m index record s with ⟨fault, _, hperform, -⟩ | ⟨_, -, hwrote⟩
    · rw [hwritten] at hperform
      cases hperform
    · obtain ⟨size, -, -, hfinite⟩ := VectorFits.of_written hwrote
      exact hfinite
  obtain ⟨others, hothers⟩ := Codec.exists_others_of_encode hencode
  exact ⟨record, others, by rw [hothers, commonParts_congr hm hrows], hkeys, hfinite⟩

/-- The documents were written by memories for rows, and no two of them have one key. -/
structure WrittenRows (documents : List Fields) : Prop where
  wrote : ∀ document ∈ documents, WroteRow document
  keyed : Container.Keyed documents

/-! ## What is read -/

/-- The row shows the selected parts of the document, beside others perhaps. -/
def RowShows (selected : List String) (row : Value) (document : Fields) : Prop :=
  ∃ fields : Fields, row = .map fields ∧ ∀ name ∈ selected, fields.get? name = document.get? name

/-- A record that is read from a row of a document is the record of that document.  Its id and its
tags are those that the document was put under. -/
theorem decode_of_shows {codec : Codec} (hrows : codec.rows.isSome = true) {withVectors : Bool}
    {row : Value} {document : Fields} (hwrote : WroteRow document)
    (hshows : RowShows (codec.selected withVectors) row document)
    (hdecode : codec.decode withVectors row = .ok record) :
    codec.decode withVectors (.map document) = .ok record
      ∧ Container.key document = (some (Ident.encode record.id), some record.fileId)
      ∧ record.vector.all Decimal.isFinite = true := by
  obtain ⟨fields, rfl, hagree⟩ := hshows
  -- nothing but the selected parts is read, so the whole document reads the same
  rw [Codec.decode_congr hagree] at hdecode
  obtain ⟨written, others, rfl, hkeys, hfinite⟩ := hwrote.exists_commonParts hrows
  have hsame := Codec.sameRecord_of_decode hkeys hdecode
  have hpartition := codec.partition_congr hsame.id hsame.tags
  rw [partition_of_rows hrows, partition_of_rows hrows] at hpartition
  refine ⟨hdecode, ?_, ?_⟩
  · rw [key_commonParts hrows, hsame.id, hpartition]
  · -- a vector that was not asked for is empty
    rw [hsame.vector]
    cases withVectors with
    | false => rfl
    | true => exact hfinite

/-- What is asked of an index to list records. -/
def listQuery (m : Memory) (filters : List Filter) (limit : Value) (withVectors : Bool) :
    Query.Statement :=
  Query.list m.codec (Filter.compile m.normalize Query.defaultItem filters) limit withVectors

/-- What is asked of an index to find the records closest to a vector. -/
def searchQuery (m : Memory) (filters : List Filter) (vector : List Float) (limit : Value)
    (withVectors : Bool) : Query.Statement :=
  Query.similarity m.codec (Filter.compile m.normalize Query.defaultItem filters) vector limit
    withVectors

theorem exists_row_of_list {filters : List Filter} {limit : Value} {withVectors : Bool}
    {wanted : Option Nat} {reading : Reading Record} {s' : Session}
    (h : perform (m.list index filters limit withVectors wanted) s = (.ok reading, s'))
    (hmem : record ∈ reading.items) :
    ∃ row ∈ (s.account.answer m.database index (listQuery m filters limit withVectors).text).rows,
      m.codec.decode withVectors row = .ok record := by
  obtain rfl : ((s.account.answer m.database index
      (listQuery m filters limit withVectors).text).toPages.read
        (fun row => (m.codec.decode withVectors row).map some) wanted) = reading :=
    Except.ok.inj (congrArg Prod.fst h)
  obtain ⟨row, hrow, hitem⟩ := exists_row_of_mem_read hmem
  refine ⟨row, hrow, ?_⟩
  -- a row that cannot be decoded gives no item
  cases hdecode : m.codec.decode withVectors row with
  | error fault =>
    rw [hdecode] at hitem
    cases hitem
  | ok read =>
    rw [hdecode] at hitem
    cases hitem
    rfl

/-- A hit is the record of its row. -/
theorem decode_of_hit {codec : Codec} {withVectors : Bool} {minRelevance row : Value}
    {relevance : Float}
    (h : hit codec withVectors minRelevance row = .ok (some (record, relevance))) :
    codec.decode withVectors row = .ok record := by
  simp only [hit, bind, Except.bind, pure, Except.pure] at h
  split at h
  case h_1 => cases h
  -- the distance and the least relevance are read first, and a row that is too far away is left out
  case h_2 distance _ =>
    split at h
    case h_1 => cases h
    case h_2 least _ =>
      split at h
      case isTrue => cases h
      case isFalse =>
        split at h
        case h_1 => cases h
        case h_2 read hdecode =>
          cases h
          exact hdecode

theorem exists_row_of_search {vector : List Float} {filters : List Filter}
    {minRelevance limit : Value} {withVectors : Bool} {wanted : Option Nat}
    {reading : Reading (Record × Float)} {relevance : Float} {s' : Session}
    (h : perform (m.search index (.ok vector) filters minRelevance limit withVectors wanted) s
      = (.ok reading, s'))
    (hmem : (record, relevance) ∈ reading.items) :
    ∃ row ∈ (s.account.answer m.database index
        (searchQuery m filters vector limit withVectors).text).rows,
      m.codec.decode withVectors row = .ok record := by
  obtain rfl : (readHits m.codec index withVectors minRelevance
      (s.account.answer m.database index
        (searchQuery m filters vector limit withVectors).text).toPages wanted).1 = reading :=
    Except.ok.inj (congrArg Prod.fst h)
  obtain ⟨row, hrow, hhit⟩ := exists_row_of_mem_read hmem
  exact ⟨row, hrow, decode_of_hit hhit⟩

/-- The index answers with rows that each show the selected parts of one of the documents. -/
def AnswersFrom (m : Memory) (index : String) (withVectors : Bool) (s : Session)
    (documents : List Fields) (query : Query.Statement) : Prop :=
  ∀ row ∈ (s.account.answer m.database index query.text).rows,
    ∃ document ∈ documents, RowShows (m.codec.selected withVectors) row document

/-- The record was listed, or found by a search, among the documents of an index. -/
inductive ReadFrom (m : Memory) (index : String) (withVectors : Bool) (s : Session)
    (documents : List Fields) (record : Record) : Prop where
  | listed {filters : List Filter} {limit : Value} {wanted : Option Nat}
      {reading : Reading Record} {s' : Session}
      (hanswer : AnswersFrom m index withVectors s documents
        (listQuery m filters limit withVectors))
      (hlist : perform (m.list index filters limit withVectors wanted) s = (.ok reading, s'))
      (hmem : record ∈ reading.items)
  | found {vector : List Float} {filters : List Filter} {minRelevance limit : Value}
      {wanted : Option Nat} {reading : Reading (Record × Float)} {relevance : Float}
      {s' : Session}
      (hanswer : AnswersFrom m index withVectors s documents
        (searchQuery m filters vector limit withVectors))
      (hsearch : perform (m.search index (.ok vector) filters minRelevance limit withVectors
        wanted) s = (.ok reading, s'))
      (hmem : (record, relevance) ∈ reading.items)

/-- A record that is read is read from a row that shows one of the documents. -/
theorem ReadFrom.exists_shows {withVectors : Bool} {documents : List Fields}
    (h : ReadFrom m index withVectors s documents record) :
    ∃ row, ∃ document ∈ documents, RowShows (m.codec.selected withVectors) row document
      ∧ m.codec.decode withVectors row = .ok record := by
  cases h with
  | listed hanswer hlist hmem =>
    obtain ⟨row, hrow, hdecode⟩ := exists_row_of_list hlist hmem
    obtain ⟨document, hdocument, hshows⟩ := hanswer row hrow
    exact ⟨row, document, hdocument, hshows, hdecode⟩
  | found hanswer hsearch hmem =>
    obtain ⟨row, hrow, hdecode⟩ := exists_row_of_search hsearch hmem
    obtain ⟨document, hdocument, hshows⟩ := hanswer row hrow
    exact ⟨row, document, hdocument, hshows, hdecode⟩

/-! ## Documents under changes -/

/-- Deleting a record changes the account in the one index only. -/
theorem sameElsewhere_delete (m : Memory) (index : String) (record : Record) (s : Session) :
    Account.SameElsewhere m.database index s.account
      (perform (m.delete index record) s).2.account := by
  rw [delete, perform_get_bind]
  cases hdelete : s.account.delete m.database index (Ident.encode record.id)
      (m.codec.partition record) with
  | ok account =>
    simp only [hdelete]
    exact Account.sameElsewhere_of_delete hdelete
  | error fault =>
    simp only [hdelete]
    cases fault <;> exact Account.sameElsewhere_refl ..

/-- **A change by a memory for rows leaves documents that such memories wrote, under different
keys.** -/
theorem writtenRows_make (hrows : m.codec.rows.isSome = true)
    (hkeying : s.account.keying = .byPartition) {c : Container}
    (hindex : s.account.container m.database index = .ok c) (h : WrittenRows c.documents)
    (change : Change) (hkeys : ∀ record, change = .write record → record.payload.names.Nodup) :
    let after := (perform (change.make m index) s).2
    after.account.keying = .byPartition
      ∧ ∃ c', after.account.container m.database index = .ok c' ∧ WrittenRows c'.documents := by
  intro after
  cases change with
  | write record =>
    -- a write that is refused leaves the account as it was
    rcases upsert_cases m index record s with
      ⟨fault, s', hperform, haccount, -⟩ | ⟨s', hperform, size, encoded, -, -, hencode, hupsert⟩
    · have hafter : after = s' := by
        simp only [after, Change.make, perform_bind, hperform]
      rw [hafter, haccount]
      exact ⟨hkeying, c, hindex, h⟩
    · have hafter : after = s' := by
        simp only [after, Change.make, perform_bind, hperform]
        rfl
      obtain ⟨before, hbefore, hfound, helsewhere⟩ := Account.container_of_upsert hupsert
      obtain rfl := Except.ok.inj (hindex.symm.trans hbefore)
      rw [hafter]
      refine ⟨helsewhere.keying.trans hkeying, _, hfound, ?_⟩
      rw [Container.upsert, hkeying]
      refine ⟨fun document hdocument => ?_, h.keyed.putDocument _⟩
      rcases Container.mem_putDocument h.keyed hdocument with rfl | hdocument
      · exact ⟨m, index, record, s, s', encoded, hrows, hkeys record rfl, hperform, hencode, rfl⟩
      · exact h.wrote document hdocument
  -- an erasure takes documents away and changes none
  | erase record =>
    obtain ⟨s', hperform, hfound, -⟩ := delete_cases hindex record
    have helsewhere := sameElsewhere_delete m index record s
    have hafter : after = s' := by
      simp only [after, Change.make, hperform]
    rw [hperform] at helsewhere
    rw [hafter]
    refine ⟨helsewhere.keying.trans hkeying, _, hfound, ?_⟩
    rw [Container.documents_getD_delete?]
    exact ⟨fun document hdocument => h.wrote document (List.mem_of_mem_filter hdocument),
      h.keyed.sublist List.filter_sublist⟩

/-- **After a run of changes the documents are such still.** -/
theorem writtenRows_run (hrows : m.codec.rows.isSome = true)
    (hkeying : s.account.keying = .byPartition) {c : Container}
    (hindex : s.account.container m.database index = .ok c) (h : WrittenRows c.documents)
    (changes : List Change)
    (hkeys : ∀ record, .write record ∈ changes → record.payload.names.Nodup) :
    let after := (run m index changes s).2
    after.account.keying = .byPartition
      ∧ ∃ c', after.account.container m.database index = .ok c' ∧ WrittenRows c'.documents := by
  induction changes generalizing s c with
  | nil => exact ⟨hkeying, c, hindex, h⟩
  | cons change rest ih =>
    obtain ⟨hkeying', c', hindex', h'⟩ := writtenRows_make hrows hkeying hindex h change
      fun record hrecord => hkeys record (hrecord ▸ List.mem_cons_self)
    exact ih hkeying' hindex' h' fun record hrecord =>
      hkeys record (List.mem_cons_of_mem _ hrecord)

/-! ## The document of a record that was read -/

/-- The size that a memory holds for an index admits vectors with so many components. -/
def Admits (m : Memory) (index : String) (count : Nat) (s : Session) : Prop :=
  ∃ size, (perform (m.vectorSize index) s).1 = .ok size
    ∧ (size.isNull = true ∨ size.same (.int count) = true)

/-- In step with an index that declares their size or none, a memory admits its vectors. -/
theorem admits_of_inStep {c : Container} (h : InStep m.database index s.account s.sizes)
    (hindex : s.account.container m.database index = .ok c) {count : Nat}
    (hdeclared : declaredSize c.properties = .ok .null
      ∨ declaredSize c.properties = .ok (.int count)) :
    Admits m index count s := by
  rw [← vectorSize_of_inStep h hindex] at hdeclared
  rcases hdeclared with hnone | hsize
  · exact ⟨.null, hnone, Or.inl rfl⟩
  · exact ⟨.int count, hsize, Or.inr ((same_int_iff _ _).mpr rfl)⟩

section Addressed

variable {c : Container} {before after : List Fields} {document : Fields}
  (hrows : m.codec.rows.isSome = true)
  (hindex : s.account.container m.database index = .ok c)
  (hdocuments : c.documents = before ++ document :: after)
  (hkeyed : Container.Keyed c.documents)
  (hkey : Container.key document = (some (Ident.encode record.id), some record.fileId))

include hrows hindex hdocuments hkeyed hkey

/-- Deleting the record deletes the one document under its key. -/
theorem delete_addressed :
    ∃ s', perform (m.delete index record) s = (.ok (), s')
      ∧ s'.account.container m.database index = .ok { c with documents := before ++ after }
      ∧ Account.SameElsewhere m.database index s.account s'.account := by
  obtain ⟨s', hperform, hfound, -⟩ := delete_cases hindex record
  have helsewhere := sameElsewhere_delete m index record s
  rw [hperform] at helsewhere
  refine ⟨s', hperform, ?_, helsewhere⟩
  rw [hdocuments] at hkeyed
  have hat : Container.isAt (Ident.encode record.id) (m.codec.partition record) document
      = true := by
    rw [Container.isAt_iff, partition_of_rows hrows, hkey]
  have hthere : c.documents.any
      (Container.isAt (Ident.encode record.id) (m.codec.partition record)) = true :=
    List.any_eq_true.mpr ⟨document, by simp [hdocuments], hat⟩
  -- the document is there, so it is found, and no other has its key
  have hleft := hkeyed.filter_isAt ((Container.isAt_iff _ _ _).mp hat)
  rw [hfound, Container.delete?, if_pos hthere, Option.getD_some, hdocuments, hleft]

/-- A record that is written replaces the one document under its key. -/
theorem upsert_addressed (hkeying : s.account.keying = .byPartition)
    (hadmits : Admits m index record.vector.length s)
    (hfinite : record.vector.all Decimal.isFinite = true) (hwritten : ¬m.codec.Unwritten record) :
    ∃ encoded s', m.codec.encode record = .ok encoded
      ∧ perform (m.upsert index record) s = (.ok record.id, s')
      ∧ Container.key encoded.document = Container.key document
      ∧ s'.account.container m.database index
        = .ok { c with documents := before ++ encoded.document :: after }
      ∧ Account.SameElsewhere m.database index s.account s'.account := by
  -- the record can be written and its vector fits, so the upsert goes through
  obtain ⟨others, notices, hencode⟩ := (m.codec.encode_cases record).2 hwritten
  obtain ⟨size, hsize, hadmitted⟩ := hadmits
  obtain ⟨s', hperform⟩ := upsert_of_fits hindex hencode ⟨size, hsize, hadmitted, hfinite⟩
  have hsame : Container.key (m.codec.commonParts record ++ others) = Container.key document :=
    (key_commonParts hrows record others).trans hkey.symm
  refine ⟨_, s', hencode, hperform, hsame, ?_⟩
  rcases upsert_cases m index record s with ⟨fault, _, hrefused, -⟩ | ⟨t, hwritten, hwrote⟩
  · rw [hperform] at hrefused
    cases hrefused
  · obtain rfl : s' = t := congrArg Prod.snd (hperform.symm.trans hwritten)
    obtain ⟨-, encoded, -, -, hencoded, hupsert⟩ := hwrote
    obtain rfl := Except.ok.inj (hencode.symm.trans hencoded)
    obtain ⟨b, hb, hfound, helsewhere⟩ := Account.container_of_upsert hupsert
    obtain rfl := Except.ok.inj (hindex.symm.trans hb)
    refine ⟨?_, helsewhere⟩
    -- the first document with the key is the one that was read
    rw [hdocuments] at hkeyed
    have hplace : Container.putDocument .byPartition c.documents
        (m.codec.commonParts record ++ others)
          = before ++ (m.codec.commonParts record ++ others) :: after := by
      rw [hdocuments]
      refine Container.putDocument_of_key_eq (fun other hother => ?_) hsame.symm
      rw [hsame]
      exact hkeyed.key_ne other (List.mem_append_left _ hother)
    rw [hfound, Container.upsert, hkeying, hplace]

end Addressed

/-- A record whose vector is not admitted, or that has no document, is refused, and the account
stays as it is. -/
theorem upsert_refused
    (h : ¬Admits m index record.vector.length s ∨ m.codec.Unwritten record) :
    ∃ fault s', perform (m.upsert index record) s = (.error fault, s')
      ∧ s'.account = s.account := by
  rcases upsert_cases m index record s with ⟨fault, s', hperform, haccount, -⟩ | ⟨s', -, hwrote⟩
  · exact ⟨fault, s', hperform, haccount⟩
  · obtain ⟨size, hsize, hadmitted, -⟩ := VectorFits.of_written hwrote
    obtain ⟨-, encoded, -, -, hencode, -⟩ := hwrote
    rcases h with hnot | hunwritten
    · exact absurd ⟨size, hsize, hadmitted⟩ hnot
    · obtain ⟨fault, hfault, -⟩ := (m.codec.encode_cases record).1 hunwritten
      cases hencode.symm.trans hfault

/-! ## Main statement -/

/-- **A record that is read addresses the document that it came from.**  Let the documents of an
index be ones that memories for rows wrote, under different keys, and let a record be listed or
found among them, with its vector or without.  One of the documents is read as that record, and
every memory for rows that meets these documents in an index of the same name deletes just that
document when it deletes the record.  When it writes the record it replaces just that document, by
one with the same id and in the same partition, if the size that it holds for the index admits the
vector and the record has a document; otherwise it refuses the record and changes nothing. -/
theorem read_record_addresses (hrows : m.codec.rows.isSome = true) {withVectors : Bool}
    {c : Container} (hdocuments : WrittenRows c.documents)
    (hread : ReadFrom m index withVectors s c.documents record) :
    ∃ before document after, c.documents = before ++ document :: after
      ∧ m.codec.decode withVectors (.map document) = .ok record
      ∧ ∀ (other : Memory) (t : Session), other.codec.rows.isSome = true →
        t.account.keying = .byPartition → t.account.container other.database index = .ok c →
        (∃ t', perform (other.delete index record) t = (.ok (), t')
            ∧ t'.account.container other.database index
              = .ok { c with documents := before ++ after }
            ∧ Account.SameElsewhere other.database index t.account t'.account)
          ∧ (Admits other index record.vector.length t → ¬other.codec.Unwritten record →
            ∃ encoded t', other.codec.encode record = .ok encoded
              ∧ perform (other.upsert index record) t = (.ok record.id, t')
              ∧ Container.key encoded.document = Container.key document
              ∧ t'.account.container other.database index
                = .ok { c with documents := before ++ encoded.document :: after }
              ∧ Account.SameElsewhere other.database index t.account t'.account)
          ∧ (¬Admits other index record.vector.length t ∨ other.codec.Unwritten record →
            ∃ fault t', perform (other.upsert index record) t = (.error fault, t')
              ∧ t'.account = t.account) := by
  -- the document is found from what was read; who changes it later has no part in that
  obtain ⟨row, document, hdocument, hshows, hdecode⟩ := hread.exists_shows
  obtain ⟨hwhole, hkey, hfinite⟩ :=
    decode_of_shows hrows (hdocuments.wrote document hdocument) hshows hdecode
  obtain ⟨before, after, hsplit⟩ := List.append_of_mem hdocument
  refine ⟨before, document, after, hsplit, hwhole, fun other t hother hkeying hindex => ?_⟩
  refine ⟨?_, fun hadmits hwritten => ?_, fun hunfit => ?_⟩
  · exact delete_addressed hother hindex hsplit hdocuments.keyed hkey
  · exact upsert_addressed hother hindex hsplit hdocuments.keyed hkey hkeying hadmits hfinite
      hwritten
  · exact upsert_refused hunfit

/-- A memory for rows. -/
def sheets : Memory := tabular "d" true (.int 10)

/-- A row of the file `f`, with a vector of two components. -/
def sheetRow (id : String) : Record :=
  ⟨id, [0.5, 0.5], [(Record.fileIdTag, [none, some "f"])], []⟩

/-- The document of the row. -/
def sheetDocument (id : String) : Fields :=
  sheets.codec.commonParts (sheetRow id) ++ Codec.rowParts {} ⟨none, none⟩

/-- An index for vectors of two components that holds two rows, as the memory leaves it that made
it. -/
def stocked : Session :=
  (perform (do
    sheets.createIndex "rows" (.int 2)
    let _ ← sheets.upsert "rows" (sheetRow "a")
    let _ ← sheets.upsert "rows" (sheetRow "b")) { account := { keying := .byPartition } }).2

/-- The container of that index. -/
def stockedContainer : Container :=
  { properties := Account.newProperties "rows" (.int 2)
    documents := [sheetDocument "a", sheetDocument "b"] }

theorem container_stocked :
    stocked.account.container "d" "rows" = .ok stockedContainer := by
  with_unfolding_all rfl

theorem inStep_stocked : InStep "d" "rows" stocked.account stocked.sizes := by
  have hsize : stocked.sizes.get? "rows" = some (.int 2) := by with_unfolding_all rfl
  intro known c hknown hc
  obtain rfl := Option.some.inj (hsize.symm.trans hknown)
  obtain rfl := Except.ok.inj (container_stocked.symm.trans hc)
  rfl

/-- The rows were written one after the other into an empty index. -/
theorem writtenRows_stocked : WrittenRows stockedContainer.documents := by
  let made := (perform (sheets.createIndex "rows" (.int 2))
    { account := { keying := .byPartition } }).2
  let changes := [Change.write (sheetRow "a"), Change.write (sheetRow "b")]
  -- the two rows were written one after the other into a new container
  have hempty : WrittenRows [] := ⟨fun _ h => absurd h List.not_mem_nil, List.nodup_nil⟩
  have hkeys : ∀ record, .write record ∈ changes → record.payload.names.Nodup := by
    intro record hrecord
    rcases List.mem_pair.mp hrecord with h | h
    · cases h
      exact List.nodup_nil
    · cases h
      exact List.nodup_nil
  have hindex : made.account.container sheets.database "rows"
      = .ok { stockedContainer with documents := [] } := rfl
  obtain ⟨-, c, hc, hrows⟩ := writtenRows_run rfl rfl hindex hempty changes hkeys
  have hrun : (run sheets "rows" changes made).2 = stocked := by with_unfolding_all rfl
  rw [hrun] at hc
  obtain rfl := Except.ok.inj (container_stocked.symm.trans hc)
  exact hrows

/-- Both rows are listed with their vectors. -/
theorem readFrom_stocked {s : Session}
    (hindex : s.account.container "d" "rows" = .ok stockedContainer) :
    ReadFrom sheets "rows" true s stockedContainer.documents (sheetRow "a") := by
  -- the listing asks for everything, so each of its rows shows a whole document
  let query := listQuery sheets [] (.int 5) true
  have hanswer : s.account.answer "d" "rows" query.text
      = ⟨stockedContainer.documents.map .map, none⟩ := by
    rw [Account.answer, hindex]
    rfl
  have hrows : AnswersFrom sheets "rows" true s stockedContainer.documents query := by
    intro row hrow
    have hshown : row ∈ (s.account.answer "d" "rows" query.text).rows := hrow
    rw [hanswer] at hshown
    obtain ⟨document, hdocument, rfl⟩ := List.mem_map.mp hshown
    exact ⟨document, hdocument, document, rfl, fun _ _ => rfl⟩
  have hlist : ∃ s', perform (sheets.list "rows" [] (.int 5) true none) s
      = (.ok ((s.account.answer "d" "rows" query.text).toPages.read
          (fun row => (sheets.codec.decode true row).map some) none), s') := ⟨_, rfl⟩
  obtain ⟨s', hperform⟩ := hlist
  rw [hanswer] at hperform
  refine .listed hrows hperform ?_
  have hitems : (Pages.read (Delivery.toPages ⟨stockedContainer.documents.map .map, none⟩)
      (fun row => (sheets.codec.decode true row).map some) none).items
      = [sheetRow "a", sheetRow "b"] := by
    with_unfolding_all rfl
  rw [hitems]
  exact List.mem_cons_self

/-- The row `a` is listed, and written again in its place. -/
theorem read_row_addresses :
    ∃ before document after, stockedContainer.documents = before ++ document :: after
      ∧ sheets.codec.decode true (.map document) = .ok (sheetRow "a")
      ∧ (∃ t, perform (sheets.delete "rows" (sheetRow "a")) stocked = (.ok (), t)
        ∧ t.account.container "d" "rows"
          = .ok { stockedContainer with documents := before ++ after })
      ∧ ∃ encoded t, sheets.codec.encode (sheetRow "a") = .ok encoded
        ∧ perform (sheets.upsert "rows" (sheetRow "a")) stocked = (.ok "a", t)
        ∧ t.account.container "d" "rows"
          = .ok { stockedContainer with documents := before ++ encoded.document :: after } := by
  obtain ⟨before, document, after, hsplit, hwhole, haddressed⟩ :=
    read_record_addresses rfl writtenRows_stocked (readFrom_stocked container_stocked)
  obtain ⟨⟨t, hdelete, hleft, -⟩, hwrite, -⟩ :=
    haddressed sheets stocked rfl (by with_unfolding_all rfl) container_stocked
  have hadmits : Admits sheets "rows" (sheetRow "a").vector.length stocked :=
    admits_of_inStep inStep_stocked container_stocked (Or.inr rfl)
  -- the payload of the row is empty, so nothing in it can nest too deeply
  have hdata : sheets.codec.loadEntry (sheetRow "a").payload Payload.rowData (sheetRow "a").id
      = .ok (none, []) := rfl
  have hwritten : ¬sheets.codec.Unwritten (sheetRow "a") :=
    Codec.not_unwritten_of_loaded hdata rfl
  obtain ⟨encoded, t', hencode, hperform, -, hplaced, -⟩ := hwrite hadmits hwritten
  exact ⟨before, document, after, hsplit, hwhole, ⟨t, hdelete, hleft⟩, encoded, t', hencode,
    hperform, hplaced⟩

/-- The index is made again, for vectors of three components: it still declares two, and the row
that is listed from it is refused for its vector. -/
theorem remade_index_refuses :
    let remade := (perform (sheets.createIndex "rows" (.int 3)) stocked).2
    remade.account.container "d" "rows" = .ok stockedContainer
      ∧ WrittenRows stockedContainer.documents
      ∧ declaredSize stockedContainer.properties = .ok (.int 2)
      ∧ ReadFrom sheets "rows" true remade stockedContainer.documents (sheetRow "a")
      ∧ (perform (sheets.upsert "rows" (sheetRow "a")) remade).1
        = .error (sizeFault (sheetRow "a") "rows" (.int 3)) := by
  intro remade
  have hindex : remade.account.container "d" "rows" = .ok stockedContainer := by
    with_unfolding_all rfl
  refine ⟨hindex, writtenRows_stocked, rfl, readFrom_stocked hindex, ?_⟩
  with_unfolding_all rfl

end SheetRecall.Memory
