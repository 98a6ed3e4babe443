import SheetRecall.Proofs.Memory.Addressed
import SheetRecall.Proofs.Query.Relevance

/-!
# What a Search Yields

A search reads the documents that a store delivers, page after page.  It yields those that are not
less relevant than asked, with their records and relevances, in the order of delivery.  A failure of
the store takes nothing back that was delivered before it, and is the failure of the search, unless
it says that the store cannot compare vectors.  What is closer is not less relevant, so of documents
that are delivered in order of distance a search yields the first ones.

## The two sides
- `Found`: the record and the distance of a document that is delivered.
- `keeps`: whether a document is not less relevant than asked.
- `Yields`: what is said of a search.

## Layers
- `readHits_of_found`: the documents that are kept are read, and the end is that of the store.
- `kept_prefix`: documents in order of distance.
- `keeps_eq_le`, `keeps_of_isNone`: asking for a number, and for what is none.
- `search_yields`: a search to the end.
-/

namespace SheetRecall.Memory

open SheetRecall.Store SheetRecall.Task SheetRecall.Decimal

/-! ## Documents that are found -/

/-- How far a document is: as its score says, or far if it bears none. -/
inductive Bears (fields : Fields) : Float → Prop
  | scored {distance : Float} (hfinite : isFinite distance = true)
      (hscore : Entries.get? fields Query.scoreName = some (.float distance)) :
      Bears fields distance
  | unscored (hscore : Entries.get? fields Query.scoreName = none) : Bears fields 2.0

theorem Bears.isFinite {fields : Fields} {distance : Float} (h : Bears fields distance) :
    isFinite distance = true := by
  cases h with
  | scored hfinite => exact hfinite
  | unscored => exact Query.isFinite_two

theorem Bears.distanceOf_eq {fields : Fields} {distance : Float} (h : Bears fields distance) :
    distanceOf (.map fields) = .ok distance := by
  cases h with
  | scored hfinite hscore =>
    rw [distanceOf, hscore]
    rfl
  | unscored hscore =>
    rw [distanceOf, hscore]
    rfl

/-- The document has the record, and is at the distance. -/
structure Found (codec : Codec) (withVectors : Bool) (record : Fields → Record)
    (distance : Fields → Float) (fields : Fields) : Prop where
  decode : codec.decode withVectors (.map fields) = .ok (record fields)
  bears : Bears fields (distance fields)

variable {codec : Codec} {withVectors : Bool} {minRelevance : Value} {least : Number}
variable {record : Fields → Record} {distance : Fields → Float}

/-- The document is not too irrelevant. -/
def keeps (least : Number) (distance : Fields → Float) (fields : Fields) : Bool :=
  !(Number.float (Query.relevance (distance fields))).lt least

/-- The record and the relevance of a document that is kept. -/
def hitOf (least : Number) (record : Fields → Record) (distance : Fields → Float) :
    Value → Option (Record × Float)
  | .map fields =>
    if keeps least distance fields then some (record fields, Query.relevance (distance fields))
    else none
  | _ => none

theorem hit_of_found (hleast : minRelevance.toNumber = .ok least) {fields : Fields}
    (h : Found codec withVectors record distance fields) :
    hit codec withVectors minRelevance (.map fields)
      = .ok (hitOf least record distance (.map fields)) := by
  simp only [hit, h.bears.distanceOf_eq, hleast, h.decode, bind, Except.bind, pure, Except.pure,
    hitOf, keeps]
  by_cases hlt : (Number.float (Query.relevance (distance fields))).lt least = true
  · simp [hlt]
  · simp [hlt]

theorem filterMap_hitOf (documents : List Fields) :
    (documents.map .map).filterMap (hitOf least record distance)
      = (documents.filter (keeps least distance)).map fun fields =>
        (record fields, Query.relevance (distance fields)) := by
  induction documents with
  | nil => rfl
  | cons fields rest ih =>
    by_cases hkeep : keeps least distance fields = true
    · simp [hitOf, hkeep, ih]
    · simp [hitOf, hkeep, ih]

theorem readHits_of_found (hleast : minRelevance.toNumber = .ok least) {pages : List (List Fields)}
    (hfound : ∀ page ∈ pages, ∀ fields ∈ page, Found codec withVectors record distance fields)
    (index : String) (failure : Option Fault) :
    readHits codec index withVectors minRelevance ⟨pages.map (·.map .map), failure⟩ none
      = (⟨(pages.flatten.filter (keeps least distance)).map fun fields =>
            (record fields, Query.relevance (distance fields)), pages.length,
          (searchEnding index (failure.elim .finished .failed)).1⟩,
        (searchEnding index (failure.elim .finished .failed)).2) := by
  have hpages : ∀ page ∈ pages.map (·.map Value.map), ∀ row ∈ page,
      hit codec withVectors minRelevance row = .ok (hitOf least record distance row) := by
    intro page hpage row hrow
    obtain ⟨documents, hdocuments, rfl⟩ := List.mem_map.mp hpage
    obtain ⟨fields, hfields, rfl⟩ := List.mem_map.mp hrow
    exact hit_of_found hleast (hfound documents hdocuments fields hfields)
  have hreading := readPages_of_ok failure hpages
  rw [← List.map_flatten, filterMap_hitOf, List.length_map] at hreading
  rw [readHits, Pages.read, hreading]

/-! ## Documents in order -/

/-- A filter that never keeps what stands behind something that it does not keep, keeps a prefix. -/
theorem filter_prefix_of_pairwise {α : Type} {keep : α → Bool} {xs : List α}
    (h : xs.Pairwise fun a b => keep b = true → keep a = true) : xs.filter keep <+: xs := by
  induction xs with
  | nil => exact List.prefix_rfl
  | cons a rest ih =>
    rw [List.pairwise_cons] at h
    by_cases hkeep : keep a = true
    · rw [List.filter_cons_of_pos hkeep]
      exact (List.prefix_cons_inj a).mpr (ih h.2)
    · have hrest : rest.filter keep = [] :=
        List.filter_eq_nil_iff.mpr fun b hb hkeepb => hkeep (h.1 b hb hkeepb)
      rw [List.filter_cons_of_neg hkeep, hrest]
      exact List.nil_prefix

/-- Of documents in order of distance none is more relevant than an earlier one. -/
theorem pairwise_relevance {documents : List Fields}
    (hfinite : ∀ fields ∈ documents, isFinite (distance fields) = true)
    (horder : documents.Pairwise fun a b => distance a ≤ distance b) :
    documents.Pairwise fun a b =>
      toRat (Query.relevance (distance b)) ≤ toRat (Query.relevance (distance a)) := by
  refine horder.imp_of_mem fun ha hb hle => ?_
  have horder' := (le_iff_toRat_le (hfinite _ ha) (hfinite _ hb)).mp hle
  exact Query.toRat_relevance_anti (hfinite _ ha) (hfinite _ hb) horder'

/-- **Of documents in order of distance a prefix is kept**, in order of relevance. -/
theorem kept_prefix (least : Number) {documents : List Fields}
    (hfinite : ∀ fields ∈ documents, isFinite (distance fields) = true)
    (horder : documents.Pairwise fun a b => distance a ≤ distance b) :
    documents.filter (keeps least distance) <+: documents
      ∧ (documents.filter (keeps least distance)).Pairwise fun a b =>
        Query.relevance (distance b) ≤ Query.relevance (distance a) := by
  have hrelevance := pairwise_relevance hfinite horder
  constructor
  · refine filter_prefix_of_pairwise (hrelevance.imp_of_mem fun ha hb hle hkeep => ?_)
    have ha := Query.isFinite_relevance (hfinite _ ha)
    have hb := Query.isFinite_relevance (hfinite _ hb)
    rw [keeps, Bool.not_eq_true'] at hkeep ⊢
    -- were the earlier one too irrelevant, the later one would be so too
    exact Bool.eq_false_iff.mpr fun hlt => Bool.eq_false_iff.mp hkeep (lt_of_toRat_le hb ha hle hlt)
  · refine (hrelevance.imp_of_mem fun ha hb hle => ?_).filter _
    have ha := Query.isFinite_relevance (hfinite _ ha)
    have hb := Query.isFinite_relevance (hfinite _ hb)
    exact (le_iff_toRat_le hb ha).mpr hle

/-! ## Thresholds -/

theorem keeps_eq_le {fields : Fields} (hfinite : isFinite (distance fields) = true)
    (hleast : least.isNone = false) :
    keeps least distance fields = least.le (.float (Query.relevance (distance fields))) := by
  have hnumber : (Number.float (Query.relevance (distance fields))).isNone = false := by
    have hparts := Query.isFinite_relevance hfinite
    rw [Number.isNone, ← Bool.not_eq_true, ← parts_eq_nan_iff]
    intro hnan
    rw [isFinite, hnan] at hparts
    cases hparts
  rw [Bool.eq_iff_iff, Number.le_iff_not_lt, keeps, Bool.not_eq_true']
  exact (and_iff_left ⟨hleast, hnumber⟩).symm

theorem keeps_of_isNone (hleast : least.isNone = true) (fields : Fields) :
    keeps least distance fields = true := by
  have hcompare := (Number.compare_eq_none_iff (.float (Query.relevance (distance fields)))
    least).mpr (.inr hleast)
  rw [keeps, Number.lt, hcompare]
  rfl

/-! ## Searching -/

/-- What a search to the end yields of documents that are delivered before the end or a failure. -/
structure Yields (least : Number) (record : Fields → Record) (distance : Fields → Float)
    (index : String) (documents : List Fields) (failure : Option Fault)
    (yielded : Reading (Record × Float) × List Notice) : Prop where
  /-- The documents that are not less relevant, as they were delivered. -/
  items : yielded.1.items = (documents.filter (keeps least distance)).map fun fields =>
    (record fields, Query.relevance (distance fields))
  /-- They are those that are at least as relevant. -/
  atLeast : least.isNone = false → ∀ fields ∈ documents, keeps least distance fields = true
    ↔ least.le (.float (Query.relevance (distance fields))) = true
  /-- No document is less relevant than what is no number. -/
  noNumber : least.isNone = true → documents.filter (keeps least distance) = documents
  ended : failure = none → yielded.1.ending = .finished ∧ yielded.2 = []
  /-- A store that cannot compare vectors ends the search. -/
  uncompared : ∀ fault, failure = some fault → cannotCompare fault = true →
    yielded.1.ending = .finished ∧ yielded.2 = [comparisonNotice index fault]
  /-- Every other failure is that of the search. -/
  failed : ∀ fault, failure = some fault → cannotCompare fault = false →
    yielded.1.ending = .failed fault ∧ yielded.2 = []
  /-- Of documents in order of distance a prefix is kept, in order of relevance. -/
  ordered : documents.Pairwise (fun a b => distance a ≤ distance b) →
    documents.filter (keeps least distance) <+: documents
      ∧ (yielded.1.items.map (·.2)).Pairwise fun r r' => r' ≤ r

theorem yields_readHits (hleast : minRelevance.toNumber = .ok least) {pages : List (List Fields)}
    (hfound : ∀ page ∈ pages, ∀ fields ∈ page, Found codec withVectors record distance fields)
    (index : String) (failure : Option Fault) :
    Yields least record distance index pages.flatten failure
      (readHits codec index withVectors minRelevance ⟨pages.map (·.map .map), failure⟩ none) := by
  have hfinite : ∀ fields ∈ pages.flatten, isFinite (distance fields) = true := by
    intro fields hfields
    obtain ⟨page, hpage, hmem⟩ := List.mem_flatten.mp hfields
    exact (hfound page hpage fields hmem).bears.isFinite
  rw [readHits_of_found hleast hfound index failure]
  refine ⟨rfl, ?_, ?_, ?_, ?_, ?_, ?_⟩
  · -- what stays follows from the least relevance, how it ends from the failure of the store
    intro hnumber fields hfields
    rw [keeps_eq_le (hfinite fields hfields) hnumber]
  · intro hnone
    exact List.filter_eq_self.mpr fun fields _ => keeps_of_isNone hnone fields
  · rintro rfl
    exact ⟨rfl, rfl⟩
  · rintro fault rfl hcompare
    rw [Option.elim, searchEnding, if_pos hcompare]
    exact ⟨rfl, rfl⟩
  · rintro fault rfl hcompare
    rw [Option.elim, searchEnding, if_neg (Bool.not_eq_true _ ▸ hcompare)]
    exact ⟨rfl, rfl⟩
  · intro horder
    -- the relevance only falls along the rows, so what stays is a beginning of them
    obtain ⟨hfirst, hrelevance⟩ := kept_prefix least hfinite horder
    refine ⟨hfirst, ?_⟩
    rw [List.map_map, List.pairwise_map]
    exact hrelevance

/-- **What a search yields**, if all documents that the store delivers can be read: the record and
the relevance of each document that is not less relevant than asked, once and in the order of
delivery.  After them the search ends if the store has nothing more or cannot compare vectors, and
fails as the store fails otherwise. -/
theorem search_yields (hleast : minRelevance.toNumber = .ok least) {pages : List (List Fields)}
    (hfound : ∀ page ∈ pages, ∀ fields ∈ page, Found codec withVectors record distance fields)
    (index : String) (failure : Option Fault) :
    let delivered : Pages := ⟨pages.map (·.map .map), failure⟩
    let yielded := readHits codec index withVectors minRelevance delivered none
    Yields least record distance index pages.flatten failure yielded
      ∧ ∀ (m : Memory) (s : Session) (vector : List Float) (filters : List Filter) (limit : Value),
        m.codec = codec →
        (s.account.answer m.database index
          (searchQuery m filters vector limit withVectors).text).toPages = delivered →
        (perform (m.search index (.ok vector) filters minRelevance limit withVectors none) s).1
          = .ok yielded.1 := by
  intro delivered yielded
  refine ⟨yields_readHits hleast hfound index failure, ?_⟩
  rintro m s vector filters limit rfl hanswer
  show Except.ok (readHits m.codec index withVectors minRelevance
    (s.account.answer m.database index
      (searchQuery m filters vector limit withVectors).text).toPages none).1 = _
  rw [hanswer]

/-- A document that bears a score, or none. -/
def scoredDocument (score : Option Float) : Fields :=
  (Part.id, .text "YQ==") :: (score.map fun distance => (Query.scoreName, .float distance)).toList

/-- The record of such a document. -/
def scoredRecord (_ : Fields) : Record := { id := "a" }

/-- The distance of such a document. -/
def scoredDistance (fields : Fields) : Float :=
  match Entries.get? fields Query.scoreName with
  | some (.float distance) => distance
  | _ => 2.0

theorem found_scoredDocument {score : Option Float} (hfinite : score.all isFinite = true) :
    Found .plain false scoredRecord scoredDistance (scoredDocument score) := by
  cases score with
  | none => exact ⟨rfl, .unscored rfl⟩
  | some distance => exact ⟨rfl, .scored hfinite rfl⟩

/-- Two pages of such documents, in order of distance. -/
def scoredPages : List (List Fields) :=
  [[scoredDocument (some 0.25), scoredDocument (some 0.5)], [scoredDocument none]]

/-- The first two documents are yielded, and then the store cannot compare vectors. -/
theorem search_yields_scored :
    let failure : Fault := .refused 400 "VectorDistance"
    let delivered : Pages := ⟨scoredPages.map (·.map .map), some failure⟩
    let yielded := readHits .plain "machines" false (.float 0.5) delivered none
    Yields (.float 0.5) scoredRecord scoredDistance "machines" scoredPages.flatten (some failure)
        yielded
      ∧ ∀ (m : Memory) (s : Session) (vector : List Float) (filters : List Filter) (limit : Value),
        m.codec = .plain →
        (s.account.answer m.database "machines"
          (searchQuery m filters vector limit false).text).toPages = delivered →
        (perform (m.search "machines" (.ok vector) filters (.float 0.5) limit false none) s).1
          = .ok yielded.1 := by
  refine search_yields rfl (fun page hpage fields hfields => ?_) "machines" _
  rcases List.mem_cons.mp hpage with rfl | hpage
  · rcases List.mem_cons.mp hfields with rfl | hfields
    · exact found_scoredDocument (by decide +kernel)
    · obtain rfl := List.mem_singleton.mp hfields
      exact found_scoredDocument (by decide +kernel)
  · obtain rfl := List.mem_singleton.mp hpage
    obtain rfl := List.mem_singleton.mp hfields
    exact found_scoredDocument rfl

/-- A document is yielded although its relevance is not at least what was asked for: nothing is at
least what is no number. -/
theorem yielded_beside_no_number :
    let documents := [scoredDocument (some 0.5)]
    let reading := (readHits .plain "machines" false (.float Decimal.nan)
      ⟨[documents.map .map], none⟩ none).1
    reading.items ≠ (documents.filter fun fields => (Number.float Decimal.nan).le
        (.float (Query.relevance (scoredDistance fields)))).map fun fields =>
      (scoredRecord fields, Query.relevance (scoredDistance fields)) := by
  intro documents reading h
  have hlength : reading.items.length = 1 := by decide +kernel
  rw [h] at hlength
  exact absurd hlength (by decide +kernel)

end SheetRecall.Memory
