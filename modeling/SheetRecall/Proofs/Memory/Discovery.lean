import SheetRecall.Proofs.Catalog.Discovered
import SheetRecall.Proofs.Results
import SheetRecall.Proofs.Value.Same

/-!
# Discovery Takes All Rows or None

A memory reads the catalog of an index, and the values of a field, off the rows that the store
answers with.  A store that breaks off gives neither a catalog nor values, whatever it gave before.
A row of a sample that is no document counts as a failure too.  A row of counts that cannot be
counted does not: it is met after the answer was taken, and its fault is the outcome.

## The two sides
- `Catalog.ofFields`, `Catalog.Counts`: what documents, and a row of counts, tell.
- `Catalog.ofDocuments`, `Catalog.rank`: how rows are read, one after the other.  What they give is
  said by `ofDocuments_eq_ok_iff` and `rank_eq_ok_iff`, and by `rank_eq_error_iff` if there is no
  ranking.

## Main statement
`discovered_from_all_rows_or_none`: what a memory discovers, for every answer of the store.
-/

namespace SheetRecall

namespace Catalog

/-! ## Samples -/

/-- **Whoever gives a catalog has read documents only**, and the catalog is made of all of them. -/
theorem ofDocuments_eq_ok_iff {rows : List Value} {catalog : Catalog} :
    ofDocuments rows = .ok catalog
      ↔ ∃ documents, rows = documents.map .map ∧ catalog = ofFields documents := by
  constructor
  · intro h
    -- a row that is no map ends the reading, whatever is known by then
    have hdocuments : ∃ documents : List Fields, rows = documents.map .map := by
      unfold ofDocuments at h
      generalize ({} : Catalog) = known at h
      induction rows generalizing known with
      | nil => exact ⟨[], rfl⟩
      | cons row rest ih =>
        rw [List.foldlM_cons] at h
        obtain ⟨added, hadded, hrest⟩ := except_bind_eq_ok_iff.mp h
        obtain ⟨documents, rfl⟩ := ih added hrest
        cases row with
        | map fields => exact ⟨fields :: documents, rfl⟩
        | _ => cases hadded
    obtain ⟨documents, rfl⟩ := hdocuments
    rw [ofDocuments_map] at h
    cases h
    exact ⟨documents, rfl, rfl⟩
  · rintro ⟨documents, rfl, rfl⟩
    exact ofDocuments_map documents

theorem collect_eq_ok_iff {d : Store.Delivery} {rows : List Value} :
    d.collect = .ok rows ↔ d = ⟨rows, none⟩ := by
  obtain ⟨given, failure⟩ := d
  cases failure <;> simp [Store.Delivery.collect]

theorem ofDelivery_eq_ok_iff {d : Store.Delivery} {catalog : Catalog} :
    ofDelivery d = .ok catalog
      ↔ ∃ documents, d = ⟨documents.map .map, none⟩ ∧ catalog = ofFields documents := by
  rw [ofDelivery, except_bind_eq_ok_iff]
  simp only [collect_eq_ok_iff, ofDocuments_eq_ok_iff]
  constructor
  · rintro ⟨rows, rfl, documents, rfl, rfl⟩
    exact ⟨documents, rfl, rfl⟩
  · rintro ⟨documents, rfl, rfl⟩
    exact ⟨_, rfl, documents, rfl, rfl⟩

/-! ## Rows of counts -/

/-- What a row of counts tells: a text and its count, or nothing.  Rows of any other shape cannot
be counted. -/
inductive Counts : Value → Option (String × Int) → Prop
  | value {fields : Fields} {v : Value} {n : Int} (hvalue : Entries.get? fields valueName = some v)
      (hcount : ((Entries.get? fields countName).getD (.int 0)).toInt = .ok n) :
      Counts (.map fields) (some (offered v, n))
  | noValue {fields : Fields} (hvalue : Entries.get? fields valueName = none) :
      Counts (.map fields) none
  | list {items : List Value} (hitems : .text valueName ∉ items) : Counts (.list items) none
  | text {s : String} (hpart : Text.contains s valueName = false) : Counts (.text s) none

theorem countOf_eq_ok_iff {row : Value} {count : Option (String × Int)} :
    countOf row = .ok count ↔ Counts row count := by
  constructor
  · intro h
    -- the name of the value is looked for as a key, as an item or as a part of a text
    cases row with
    | map fields =>
      simp only [countOf] at h
      split at h
      case h_1 hvalue =>
        cases h
        exact .noValue hvalue
      case h_2 v hvalue =>
        obtain ⟨n, hcount, hpure⟩ := except_bind_eq_ok_iff.mp h
        cases hpure
        exact .value hvalue hcount
    | list items =>
      simp only [countOf] at h
      split at h
      case isTrue => cases h
      case isFalse hany =>
        cases h
        refine .list fun hmem => hany ?_
        exact List.any_eq_true.mpr ⟨_, hmem, (Value.text_same_iff _ valueName).mpr rfl⟩
    | text s =>
      simp only [countOf] at h
      split at h
      case isTrue => cases h
      case isFalse hpart =>
        cases h
        exact .text (Bool.eq_false_iff.mpr hpart)
    | _ => cases h
  · intro h
    cases h with
    | value hvalue hcount =>
      simp only [countOf, hvalue, hcount]
      rfl
    | noValue hvalue => simp only [countOf, hvalue]
    | @list items hitems =>
      -- an item that equals the name would be the name
      have hany : ¬ items.any (Value.same (.text valueName)) = true := by
        intro h
        obtain ⟨item, hmem, hsame⟩ := List.any_eq_true.mp h
        exact hitems ((Value.text_same_iff item valueName).mp hsame ▸ hmem)
      simp only [countOf]
      exact if_neg hany
    | text hpart =>
      simp only [countOf, hpart]
      rfl

/-- **The ranking is made of all rows**, and there is one only if all of them can be counted. -/
theorem rank_eq_ok_iff {rows : List Value} {limit : Int} {ranked : TopValues} :
    rank rows (.int limit) = .ok ranked
      ↔ ∃ counts : Value → Option (String × Int), (∀ row ∈ rows, Counts row (counts row))
        ∧ ranked = mostFrequent (totals (rows.filterMap counts)) limit.toNat := by
  have hfilter : ∀ counts : Value → Option (String × Int),
      (rows.map counts).filterMap (fun count => count) = rows.filterMap counts := by
    intro counts
    rw [List.filterMap_map]
    rfl
  -- counting all rows is a traversal, so it gives a count for each row or none at all
  rw [rank, except_bind_eq_ok_iff]
  constructor
  · rintro ⟨results, hresults, hranked⟩
    obtain ⟨counts, hcounts, rfl⟩ := mapM_eq_ok_iff.mp hresults
    rw [hfilter] at hranked
    cases hranked
    exact ⟨counts, fun row hrow => countOf_eq_ok_iff.mp (hcounts row hrow), rfl⟩
  · rintro ⟨counts, hcounts, rfl⟩
    refine ⟨rows.map counts, ?_, ?_⟩
    · apply mapM_eq_ok_iff.mpr
      exact ⟨counts, fun row hrow => countOf_eq_ok_iff.mpr (hcounts row hrow), rfl⟩
    · rw [hfilter]
      rfl

/-- The fault of a ranking is that of the first row that cannot be counted. -/
theorem rank_eq_error_iff {rows : List Value} {limit : Int} {fault : Fault} :
    rank rows (.int limit) = .error fault
      ↔ ∃ before row after, rows = before ++ row :: after
        ∧ (∀ earlier ∈ before, ∃ count, Counts earlier count) ∧ countOf row = .error fault := by
  rw [rank, except_bind_eq_error_iff, mapM_eq_error_iff]
  simp only [countOf_eq_ok_iff]
  constructor
  · rintro (h | ⟨results, -, hranked⟩)
    · exact h
    · cases hranked
  · exact Or.inl

end Catalog

/-! ## What a memory discovers -/

namespace Memory

open SheetRecall.Store SheetRecall.Task

variable {m : Memory}

/-- A sample that gives no catalog is reported, and nothing counts as known. -/
theorem perform_catalog_of_error (hrows : m.codec.rows.isSome = true) {index : String}
    {s : Session} {fault : Fault}
    (h : Catalog.ofDelivery
      (s.account.answer m.database index (Query.sample m.sampleSize).text) = .error fault) :
    perform (m.catalog index) s
      = (.ok {}, (s.record (.asked index (Query.sample m.sampleSize))).report
          [.error ("Error getting filterable fields from index " ++ index)]) := by
  rw [Memory.catalog, perform_bind_of_ok (perform_needRows hrows s),
    perform_bind_of_ok (perform_ask m index _ s), h]
  rfl

/-- Counts that break off give no values. -/
theorem topValues_of_failure (hrows : m.codec.rows.isSome = true) {index : String}
    {kind : Catalog.Kind} {name : String} {limit : Value} {s : Session}
    (h : (s.account.answer m.database index (Query.valueCounts kind name).text).failure ≠ none) :
    (perform (m.topValues index kind name limit) s).1 = .ok [] := by
  obtain ⟨fault, hfault⟩ := Option.ne_none_iff_exists'.mp h
  rw [topValues, perform_bind_of_ok (perform_needRows hrows s),
    perform_bind_of_ok (perform_ask m index _ s), Delivery.collect, hfault]
  rfl

/-- Counts that are complete are ranked, and the fault of a ranking is not held up. -/
theorem topValues_of_complete (hrows : m.codec.rows.isSome = true) {index : String}
    {kind : Catalog.Kind} {name : String} {limit : Value} {s : Session}
    (h : (s.account.answer m.database index (Query.valueCounts kind name).text).failure = none) :
    (perform (m.topValues index kind name limit) s).1
      = Catalog.rank (s.account.answer m.database index (Query.valueCounts kind name).text).rows
        limit := by
  rw [topValues, perform_bind_of_ok (perform_needRows hrows s),
    perform_bind_of_ok (perform_ask m index _ s), Delivery.collect, h]
  rfl

/-- **What is discovered comes from all rows or from none.**  A sample gives the catalog of all its
rows if it is complete and each of them is a document, and the empty catalog otherwise.  Counts that
break off give no values.  Counts that are complete give the ranking of all rows if each of them can
be counted; otherwise there are no values at all, but the fault of the first row that cannot. -/
theorem discovered_from_all_rows_or_none (hrows : m.codec.rows.isSome = true) (index : String)
    (kind : Catalog.Kind) (name : String) (limit : Int) (s : Session) :
    let sampled := s.account.answer m.database index (Query.sample m.sampleSize).text
    let counted := s.account.answer m.database index (Query.valueCounts kind name).text
    let catalog := (perform (m.catalog index) s).1
    let values := (perform (m.topValues index kind name (.int limit)) s).1
    (∀ documents : List Fields, sampled = ⟨documents.map .map, none⟩ →
        catalog = .ok (Catalog.ofFields documents))
      ∧ ((∀ documents : List Fields, sampled ≠ ⟨documents.map .map, none⟩) → catalog = .ok {})
      ∧ (counted.failure ≠ none → values = .ok [])
      ∧ (counted.failure = none → ∀ ranked, values = .ok ranked
        ↔ ∃ counts : Value → Option (String × Int),
          (∀ row ∈ counted.rows, Catalog.Counts row (counts row))
            ∧ ranked = Catalog.mostFrequent (Catalog.totals (counted.rows.filterMap counts))
              limit.toNat)
      ∧ ∀ fault, values = .error fault ↔ counted.failure = none
        ∧ ∃ before row after, counted.rows = before ++ row :: after
          ∧ (∀ earlier ∈ before, ∃ count, Catalog.Counts earlier count)
          ∧ Catalog.countOf row = .error fault := by
  intro sampled counted catalog values
  refine ⟨?_, ?_, topValues_of_failure hrows, ?_, ?_⟩
  · -- an answer that came whole is read to its end
    intro documents hsampled
    have hcatalog := Catalog.ofDelivery_eq_ok_iff.mpr ⟨documents, hsampled, rfl⟩
    exact congrArg Prod.fst (perform_catalog hrows hcatalog)
  · -- an answer that broke off, or holds a row that is no map, leaves an empty catalog
    intro hpartial
    cases hcatalog : Catalog.ofDelivery sampled with
    | ok found =>
      obtain ⟨documents, hsampled, -⟩ := Catalog.ofDelivery_eq_ok_iff.mp hcatalog
      exact absurd hsampled (hpartial documents)
    | error fault => exact congrArg Prod.fst (perform_catalog_of_error hrows hcatalog)
  · intro hcomplete ranked
    have hvalues : values = Catalog.rank counted.rows (.int limit) :=
      topValues_of_complete hrows hcomplete
    rw [hvalues]
    exact Catalog.rank_eq_ok_iff
  · intro fault
    -- the ranking is outside of the handler, so its faults come through where the answer was whole
    by_cases hcomplete : counted.failure = none
    · have hvalues : values = Catalog.rank counted.rows (.int limit) :=
        topValues_of_complete hrows hcomplete
      rw [hvalues, Catalog.rank_eq_error_iff]
      exact (and_iff_right hcomplete).symm
    · have hvalues : values = .ok [] := topValues_of_failure hrows hcomplete
      rw [hvalues]
      constructor
      · intro h
        cases h
      · rintro ⟨h, -⟩
        exact absurd h hcomplete

/-- An account whose database `d` has the index `machines`, with two rows to count the values of a
field; the second row has no count. -/
def uncounted : Account :=
  { databases := [("d",
      { made := true
        containers := [("machines",
          { properties := Account.newProperties "machines" (.int 0)
            prepared := [("GROUP BY",
              [.map [(Catalog.valueName, .text "Running"), (Catalog.countName, .int 2)],
                .map [(Catalog.valueName, .text "Stopped"), (Catalog.countName, .null)]])] })] })] }

/-- The values of a field of machines, one of whose counts is missing. -/
theorem discovered_from_uncounted :
    let m := tabular "d" true (.int 10)
    let s : Session := { account := uncounted }
    let sampled := s.account.answer m.database "machines" (Query.sample m.sampleSize).text
    let counted := s.account.answer m.database "machines"
      (Query.valueCounts .column "status").text
    let catalog := (perform (m.catalog "machines") s).1
    let values := (perform (m.topValues "machines" .column "status" (.int 10)) s).1
    (∀ documents : List Fields, sampled = ⟨documents.map .map, none⟩ →
        catalog = .ok (Catalog.ofFields documents))
      ∧ ((∀ documents : List Fields, sampled ≠ ⟨documents.map .map, none⟩) → catalog = .ok {})
      ∧ (counted.failure ≠ none → values = .ok [])
      ∧ (counted.failure = none → ∀ ranked, values = .ok ranked
        ↔ ∃ counts : Value → Option (String × Int),
          (∀ row ∈ counted.rows, Catalog.Counts row (counts row))
            ∧ ranked = Catalog.mostFrequent (Catalog.totals (counted.rows.filterMap counts))
              (10 : Int).toNat)
      ∧ ∀ fault, values = .error fault ↔ counted.failure = none
        ∧ ∃ before row after, counted.rows = before ++ row :: after
          ∧ (∀ earlier ∈ before, ∃ count, Catalog.Counts earlier count)
          ∧ Catalog.countOf row = .error fault :=
  discovered_from_all_rows_or_none rfl "machines" .column "status" 10 { account := uncounted }

/-- A row without a count ends the discovery of values with a fault, and not with no values. -/
theorem missing_count_escapes :
    let m := tabular "d" true (.int 10)
    let s : Session := { account := uncounted }
    let values := (perform (m.topValues "machines" .column "status" (.int 10)) s).1
    values = .error .wrongKind ∧ values ≠ .ok [] := by
  intro m s values
  have hvalues : values = .error .wrongKind := by
    show (perform (m.topValues "machines" .column "status" (.int 10)) s).1 = _
    rw [topValues_of_complete rfl (by decide +kernel)]
    decide +kernel
  rw [hvalues]
  exact ⟨rfl, nofun⟩

end Memory

end SheetRecall
