import SheetRecall.Proofs.Document.Selected
import SheetRecall.Proofs.Memory.Sizes
import SheetRecall.Proofs.Ident.Code
import SheetRecall.Proofs.Workbook.Documents
import SheetRecall.Proofs.Workbook.Ids
import SheetRecall.Service.Handle

/-!
# An Import Stores Every Row Once

A file is imported by writing the record of each of its rows, one after the other.  The records have
different ids, so no document takes the place of another, and an index that was empty holds one
document for each row afterwards.

## Layers
- One record, and all records: when none is refused.
- The documents of the index: each write adds one at the end.
- The rows of a workbook.

## Main statements
- `storeChunks_of_fits`: when an import refuses nothing.
- `documents_of_storeChunks`: the documents of an index after an import.
- `import_keeps_rows`: every row of a workbook is kept, once and as it is.
-/

namespace SheetRecall.Service

open SheetRecall.Store SheetRecall.Task

variable {b : Backend} {index fileId : String}

/-! ## One record -/

theorem perform_outcome {σ α : Type} (task : Task σ α) (s : σ) :
    perform task.outcome s = (.ok (perform task s).1, (perform task s).2) := rfl

theorem perform_onSession {α : Type} (task : Task Memory.Session α) (app : App) :
    perform (App.onSession task) app
      = ((perform task app.session).1, { app with session := (perform task app.session).2 }) := rfl

/-- The record that is written for a chunk. -/
def chunkRecord (b : Backend) (fileId : String) (chunk : Workbook.Chunk) : Record :=
  chunk.toRecord fileId (b.model.vector chunk.text) [] {}

/-- If no record is refused, the first one is written, and then the others are. -/
theorem storeChunks_cons {chunk : Workbook.Chunk} {rest : List Workbook.Chunk} {app app' : App}
    (h : perform (storeChunks b index fileId (chunk :: rest)) app = (.ok none, app')) :
    ∃ s, Memory.Written b.memory index (chunkRecord b fileId chunk) app.session s.account
      ∧ perform (storeChunks b index fileId rest) { app with session := s } = (.ok none, app') := by
  rw [storeChunks, perform_bind_of_ok (perform_outcome _ app), perform_onSession] at h
  rcases Memory.upsert_cases b.memory index (chunkRecord b fileId chunk) app.session with
    ⟨fault, s, hrefused, -⟩ | ⟨s, hperform, hwritten⟩
  · -- an import that meets a refusal says why, or fails
    rw [chunkRecord] at hrefused
    rw [hrefused] at h
    cases fault <;> cases h
  · rw [chunkRecord] at hperform
    rw [hperform] at h
    exact ⟨s, hwritten, h⟩

/-! ## All records -/

/-- **An import refuses nothing** if every row has a document and a vector of the size that is
remembered of the index. -/
theorem storeChunks_of_fits {chunks : List Workbook.Chunk} {app : App} {c : Container}
    {size : Value}
    (hindex : app.session.account.container b.memory.database index = .ok c)
    (hsize : app.session.sizes.get? index = some size)
    (hfits : ∀ chunk ∈ chunks, Memory.fits (chunkRecord b fileId chunk) index size = .ok ())
    (hencode : ∀ chunk ∈ chunks, ∃ encoded,
      b.memory.codec.encode (chunkRecord b fileId chunk) = .ok encoded) :
    ∃ app', perform (storeChunks b index fileId chunks) app = (.ok none, app') := by
  -- each chunk leaves the index and its size for the chunks behind it
  induction chunks generalizing app c with
  | nil => exact ⟨app, rfl⟩
  | cons chunk rest ih =>
    let record := chunkRecord b fileId chunk
    have hremembered := Memory.vectorSize_of_remembered (m := b.memory) hsize
    have houtcome : (perform (b.memory.upsert index record) app.session).1 = .ok record.id := by
      obtain ⟨encoded, hencoded⟩ := hencode chunk List.mem_cons_self
      rw [Memory.upsert_outcome hindex (congrArg Prod.fst hremembered) record,
        hfits chunk List.mem_cons_self, hencoded]
      rfl
    -- the index is still there afterwards, and what is remembered of it is the same
    have hsizes := Memory.sizes_upsert b.memory index record app.session
    rw [hremembered] at hsizes
    rcases Memory.upsert_cases b.memory index record app.session with
      ⟨fault, s, hrefused, -⟩ | ⟨s, hperform, _, _, -, -, -, hwritten⟩
    · rw [hrefused] at houtcome
      cases houtcome
    · obtain ⟨_, -, hfound, -⟩ := Account.container_of_upsert hwritten
      rw [hperform] at hsizes
      have hrest := @ih { app with session := s } _ hfound (hsizes ▸ hsize)
        (fun later hlater => hfits later (List.mem_cons_of_mem _ hlater))
        (fun later hlater => hencode later (List.mem_cons_of_mem _ hlater))
      simp only [record, chunkRecord] at hperform
      rw [storeChunks, perform_bind_of_ok (perform_outcome _ app), perform_onSession, hperform]
      exact hrest

/-! ## Documents of an index -/

/-- A document has the id of its record. -/
theorem textAt_of_encode {codec : Codec} {record : Record} {encoded : Encoded}
    (h : codec.encode record = .ok encoded) :
    Container.textAt encoded.document Part.id = some (Ident.encode record.id) := by
  obtain ⟨others, hothers⟩ := Codec.exists_others_of_encode h
  rw [hothers]
  rfl

/-- A document with an id of its own comes at the end. -/
theorem putDocument_of_id_ne (keying : Keying) {documents : List Fields} {e : Fields}
    (h : ∀ d ∈ documents, Container.textAt d Part.id ≠ Container.textAt e Part.id) :
    Container.putDocument keying documents e = documents ++ [e] := by
  induction documents with
  | nil => rfl
  | cons d rest ih =>
    obtain ⟨hd, hrest⟩ := List.forall_mem_cons.mp h
    have hkey : Container.sameKey keying d e = false := by
      unfold Container.sameKey
      rw [beq_eq_false_iff_ne.mpr hd, Bool.false_and]
    rw [Container.putDocument, if_neg (by simp [hkey]), ih hrest]
    rfl

/-- **The documents of an index after an import** are those from before and one for each chunk, if
no record is refused and the ids are new and different. -/
theorem documents_of_storeChunks {chunks : List Workbook.Chunk} {app app' : App} {c : Container}
    (hindex : app.session.account.container b.memory.database index = .ok c)
    (hnew : ∀ d ∈ c.documents, ∀ chunk ∈ chunks,
      Container.textAt d Part.id ≠ some (Ident.encode (chunk.recordId fileId)))
    (hnodup : (chunks.map (·.recordId fileId)).Nodup)
    (h : perform (storeChunks b index fileId chunks) app = (.ok none, app')) :
    ∃ c' stored, app'.session.account.container b.memory.database index = .ok c'
      ∧ c'.documents = c.documents ++ stored
      ∧ List.Forall₂ (fun chunk document => ∃ encoded,
          b.memory.codec.encode (chunkRecord b fileId chunk) = .ok encoded
            ∧ encoded.document = document) chunks stored := by
  induction chunks generalizing app c with
  | nil =>
    cases h
    exact ⟨c, [], hindex, (List.append_nil _).symm, .nil⟩
  | cons chunk rest ih =>
    -- the first chunk was stored, and so were the others behind it
    obtain ⟨s, ⟨size, encoded, -, -, hencode, hupsert⟩, hrest⟩ := storeChunks_cons h
    obtain ⟨c₀, hc₀, hfound, -⟩ := Account.container_of_upsert hupsert
    obtain rfl := Except.ok.inj (hindex.symm.trans hc₀)
    rw [List.map_cons, List.nodup_cons] at hnodup
    have hid := textAt_of_encode hencode
    -- no document that was there has the id
    have hput : Container.putDocument app.session.account.keying c.documents encoded.document
        = c.documents ++ [encoded.document] :=
      putDocument_of_id_ne _ fun d hd => hid ▸ hnew d hd chunk List.mem_cons_self
    have hlater : ∀ d ∈ (c.upsert app.session.account.keying encoded.document).documents,
        ∀ later ∈ rest,
          Container.textAt d Part.id ≠ some (Ident.encode (later.recordId fileId)) := by
      intro d hd later hlater
      rw [Container.upsert, hput, List.mem_append, List.mem_singleton] at hd
      rcases hd with hd | rfl
      · exact hnew d hd later (List.mem_cons_of_mem _ hlater)
      · rw [hid, ne_eq, Option.some.injEq]
        intro heq
        exact hnodup.1 (List.mem_map.mpr ⟨later, hlater, (Ident.encode_injective heq).symm⟩)
    obtain ⟨c', stored, hstored, hdocuments, hall⟩ := ih hfound hlater hnodup.2 hrest
    refine ⟨c', encoded.document :: stored, hstored, ?_, .cons ⟨encoded, hencode, rfl⟩ hall⟩
    rw [hdocuments, Container.upsert, hput, List.append_assoc, List.singleton_append]

/-! ## Workbooks -/

section Workbooks

open Workbook

/-- What an import makes of the rows of worksheets. -/
structure StoredOnce (sheets : List Sheet) (fileId : String) (chunks : List Chunk) : Prop where
  /-- No two rows have one id. -/
  ids : (chunks.map (·.recordId fileId)).Nodup
  /-- No row has an id that a row of another file has, if no worksheet's name holds a slash. -/
  elsewhere : ∀ (o : Options) (others : List Sheet) (found : List Chunk) (other : String),
    decode o (.workbook others) = .ok found → fileId ≠ other →
    (∀ sheet ∈ sheets ++ others, '/' ∉ sheet.title.toList) →
    ∀ c ∈ chunks, ∀ d ∈ found, c.recordId fileId ≠ d.recordId other
  /-- A row whose values are kept has a document that holds them. -/
  documents : ∀ c ∈ chunks, (∀ field ∈ c.data, Kept field.2) → ∀ (vector : List Float)
    (style : Json.Style), style.sortKeys = false →
    ∃ encoded, (Codec.tabular {}).encode (c.toRecord fileId vector [] style) = .ok encoded
      ∧ c.StoredAs fileId encoded.document
  /-- An empty index holds one document for each row afterwards, if no record is refused. -/
  stored : ∀ (b : Backend) (index : String) (app app' : App) (empty : Container),
    app.session.account.container b.memory.database index = .ok empty → empty.documents = [] →
    perform (storeChunks b index fileId chunks) app = (.ok none, app') →
    ∃ container, app'.session.account.container b.memory.database index = .ok container
      ∧ container.documents.length = chunks.length
      ∧ List.Forall₂ (fun chunk document => ∃ encoded,
          b.memory.codec.encode (chunkRecord b fileId chunk) = .ok encoded
            ∧ encoded.document = document) chunks container.documents

/-- **Every row of a workbook is stored once and as it is**; a workbook whose cells can be stored is
decoded to rows whose values are kept. -/
theorem import_keeps_rows (o : Options) {sheets : List Sheet}
    (htitles : (sheets.map (·.title)).Nodup) {fileId : String} (hfile : fileId ≠ "") :
    (∀ chunks, decode o (.workbook sheets) = .ok chunks → StoredOnce sheets fileId chunks)
      ∧ ((∀ sheet ∈ sheets, sheet.Storable) → ∃ chunks, decode o (.workbook sheets) = .ok chunks
        ∧ ∀ c ∈ chunks, ∀ field ∈ c.data, Kept field.2) := by
  -- the first half is about any import that decodes, the second about sheets that can be stored
  refine ⟨fun chunks h => ?_, fun hsheets => ?_⟩
  · have hids := nodup_recordId h htitles fileId
    refine ⟨hids, ?elsewhere, ?documents, ?stored⟩
    case elsewhere =>
      intro o' others found other hfound hother hslash c hc d hd
      exact recordId_ne_of_decode h hfound hslash hother hc hd
    case documents =>
      intro c hc hkept vector style hstyle
      exact Chunk.encode_toRecord (nodup_names_of_mem_decode h hc) hkept hfile vector hstyle
    case stored =>
      intro b index app app' empty hindex hempty himport
      obtain ⟨container, stored, hcontainer, hstored, hall⟩ :=
        documents_of_storeChunks hindex (by simp [hempty]) hids himport
      rw [hempty, List.nil_append] at hstored
      subst hstored
      exact ⟨container, hcontainer, hall.length_eq.symm, hall⟩
  · obtain ⟨chunks, h⟩ := exists_decode hsheets o
    exact ⟨chunks, h, fun c hc => kept_of_mem_decode hsheets h hc⟩

/-- A worksheet with two rows. -/
def inventory : Sheet where
  title := "Servers"
  rows := [[.value (.text "Name"), .value (.text "cpuCount")],
    [.value (.text "web"), .value (.int 4)], [.value (.text "db"), .value .null]]

/-- What its rows are decoded to. -/
def inventoryRows : List Chunk :=
  [⟨1, "Servers", 2, [("_worksheet", .text "Servers"), ("_rowNumber", .int 2),
     ("Name", .text "web"), ("cpuCount", .int 4)]⟩,
   ⟨2, "Servers", 3, [("_worksheet", .text "Servers"), ("_rowNumber", .int 3),
     ("Name", .text "db"), ("cpuCount", .text "")]⟩]

/-- A memory for rows beside a model without components. -/
def bare : Backend := ⟨.tabular "d" true (.int 10), ⟨0, fun _ => []⟩⟩

/-- The service with an empty index. -/
def unfilled : App := { session := (perform (bare.memory.createIndex "i" (.int 0)) {}).2 }

theorem import_keeps_rows_inventory :
    decode {} (.workbook [inventory]) = .ok inventoryRows
      ∧ (∀ c ∈ inventoryRows, ∃ encoded,
        (Codec.tabular {}).encode (chunkRecord bare "f" c) = .ok encoded
          ∧ c.StoredAs "f" encoded.document)
      ∧ ∃ app container, perform (storeChunks bare "i" "f" inventoryRows) unfilled = (.ok none, app)
        ∧ app.session.account.container "d" "i" = .ok container
        ∧ container.documents.length = 2 := by
  -- the positions of the four rows are numbers that are read back
  have hnumbers : ∀ p < 4, Json.Readable .lenient (.int (p + 1 : Nat)) := by
    unfold Json.Readable
    decide
  have hstorable : inventory.Storable := by
    refine ⟨?_, fun p hp => hnumbers p (Nat.lt_succ_of_lt hp)⟩
    have hcount : (Cell.value (.int 4)).Storable := .inr (hnumbers 3 (by decide))
    have htext : ∀ s, (Cell.value (.text s)).Storable := fun s => .inr trivial
    have hnull : (Cell.value .null).Storable := .inl rfl
    simp only [inventory, List.forall_mem_cons, List.not_mem_nil, false_implies, implies_true,
      and_true]
    exact ⟨⟨htext _, htext _⟩, ⟨htext _, hcount⟩, htext _, hnull⟩
  -- the general theorem gives the documents, and the container after the import
  obtain ⟨hrows, hdecoded⟩ := @import_keeps_rows {} [inventory] (by decide) "f" (by decide)
  obtain ⟨chunks, hchunks, hkept⟩ := hdecoded fun sheet hsheet => by
    rwa [List.mem_singleton.mp hsheet]
  have hdecode : decode {} (.workbook [inventory]) = .ok inventoryRows := by rfl
  obtain rfl := Except.ok.inj (hdecode.symm.trans hchunks)
  have honce := hrows inventoryRows hdecode
  have hdocuments : ∀ c ∈ inventoryRows, ∃ encoded,
      (Codec.tabular {}).encode (chunkRecord bare "f" c) = .ok encoded
        ∧ c.StoredAs "f" encoded.document :=
    fun c hc => honce.documents c hc (hkept c hc) _ {} rfl
  have hindex : unfilled.session.account.container "d" "i"
    = .ok ⟨Account.newProperties "i" (.int 0), [], [], none⟩ := rfl
  have hfits : ∀ c ∈ inventoryRows, Memory.fits (chunkRecord bare "f" c) "i" (.int 0) = .ok () :=
    fun c _ => Memory.fits_int _ _ _
  obtain ⟨app, himport⟩ := storeChunks_of_fits hindex rfl hfits
    fun c hc => (hdocuments c hc).imp fun _ h => h.1
  obtain ⟨container, hcontainer, hlength, -⟩ :=
    honce.stored bare "i" unfilled app _ hindex rfl himport
  exact ⟨hdecode, hdocuments, app, container, himport, hcontainer, hlength⟩

end Workbooks

end SheetRecall.Service
