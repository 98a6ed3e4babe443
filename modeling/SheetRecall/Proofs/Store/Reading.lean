import Mathlib.Data.List.Perm.Subperm
import SheetRecall.Store.Delivery

/-!
# Reading Pages

A reader that sets itself no limit reads every row that a store delivers, page after page, and
ends as the delivery ends.  Whatever the limit and wherever reading ends, what is read comes from
the rows that are delivered.

## Main statements
- `read_all`: rows that are all readable are all read, if no fault cuts the delivery short.
- `exists_row_of_mem_read`: each item that is read is that of a row.
-/

namespace SheetRecall.Store

variable {α β : Type}

/-- Pages of two hold the rows in their order. -/
theorem flatten_inPairs (rows : List β) : (inPairs rows).flatten = rows := by
  induction rows using inPairs.induct with
  | case1 => rfl
  | case2 row => rfl
  | case3 row other rest ih =>
    rw [inPairs, List.flatten_cons, ih]
    rfl

variable {item : Value → Except Fault (Option α)} {found : Value → Option α}

theorem readPage_of_ok {page : List Value} (h : ∀ row ∈ page, item row = .ok (found row)) :
    readPage item none page = ⟨page.filterMap found, none, none⟩ := by
  induction page with
  | nil => rfl
  | cons row rest ih =>
    have hrest := ih fun other hother => h other (List.mem_cons_of_mem _ hother)
    rw [readPage, h row List.mem_cons_self]
    -- a row without an item is passed over
    cases hfound : found row with
    | none =>
      rw [List.filterMap_cons_none hfound]
      exact hrest
    | some a =>
      rw [List.filterMap_cons_some hfound]
      simp [hrest]

/-- **Pages whose rows can all be read are read to the end**, and reading ends as they do. -/
theorem readPages_of_ok {pages : List (List Value)} (failure : Option Fault)
    (h : ∀ page ∈ pages, ∀ row ∈ page, item row = .ok (found row)) :
    readPages item failure none pages
      = ⟨pages.flatten.filterMap found, pages.length, failure.elim .finished .failed⟩ := by
  induction pages with
  | nil => rfl
  | cons page rest ih =>
    have hpage := readPage_of_ok (h page List.mem_cons_self)
    have hrest := ih fun other hother => h other (List.mem_cons_of_mem _ hother)
    simp only [readPages, hpage, hrest, List.flatten_cons, List.filterMap_append,
      List.length_cons]

/-- Rows that can all be read are all read, in their order. -/
theorem read_all {rows : List Value} (h : ∀ row ∈ rows, item row = .ok (found row)) :
    ∃ pages, Pages.read (Delivery.toPages ⟨rows, none⟩) item none
      = ⟨rows.filterMap found, pages, .finished⟩ := by
  have hpages : ∀ page ∈ inPairs rows, ∀ row ∈ page, item row = .ok (found row) := by
    intro page hpage row hrow
    apply h
    rw [← flatten_inPairs rows]
    exact List.mem_flatten_of_mem hpage hrow
  refine ⟨(inPairs rows).length, ?_⟩
  rw [Pages.read, Delivery.toPages, readPages_of_ok none hpages, flatten_inPairs]
  rfl

/-! ## Items and their rows -/

theorem exists_row_of_mem_readPage {wanted : Option Nat} {page : List Value} {a : α}
    (h : a ∈ (readPage item wanted page).items) : ∃ row ∈ page, item row = .ok (some a) := by
  induction page generalizing wanted with
  | nil => cases h
  | cons row rest ih =>
    -- a row ends the reading with a fault, is passed over, or gives the item
    have hlater : ∀ {wanted}, a ∈ (readPage item wanted rest).items →
        ∃ other ∈ row :: rest, item other = .ok (some a) := by
      intro wanted hrest
      obtain ⟨other, hother, hitem⟩ := ih hrest
      exact ⟨other, List.mem_cons_of_mem _ hother, hitem⟩
    rw [readPage] at h
    split at h
    case h_1 => cases h
    case h_2 => exact hlater h
    case h_3 b hrow =>
      split at h
      case isTrue =>
        obtain rfl := List.mem_singleton.mp h
        exact ⟨row, List.mem_cons_self, hrow⟩
      case isFalse =>
        rcases List.mem_cons.mp h with rfl | hrest
        · exact ⟨row, List.mem_cons_self, hrow⟩
        · exact hlater hrest

theorem exists_row_of_mem_readPages {failure : Option Fault} {wanted : Option Nat}
    {pages : List (List Value)} {a : α} (h : a ∈ (readPages item failure wanted pages).items) :
    ∃ page ∈ pages, ∃ row ∈ page, item row = .ok (some a) := by
  induction pages generalizing wanted with
  | nil => cases h
  | cons page rest ih =>
    have hfirst : a ∈ (readPage item wanted page).items →
        ∃ other ∈ page :: rest, ∃ row ∈ other, item row = .ok (some a) :=
      fun hpage => ⟨page, List.mem_cons_self, exists_row_of_mem_readPage hpage⟩
    -- the page is the last one read, or others are read behind it
    simp only [readPages] at h
    split at h
    case h_1 => exact hfirst h
    case h_2 =>
      rcases List.mem_append.mp h with hpage | hrest
      · exact hfirst hpage
      · obtain ⟨other, hother, hrow⟩ := ih hrest
        exact ⟨other, List.mem_cons_of_mem _ hother, hrow⟩

theorem mem_rows_of_mem_pages {d : Delivery} {page : List Value} (hpage : page ∈ d.toPages.pages)
    {row : Value} (hrow : row ∈ page) : row ∈ d.rows := by
  have hpairs : page ∈ inPairs d.rows := by
    unfold Delivery.toPages at hpage
    split at hpage
    case h_1 => exact hpage
    case h_2 => exact List.mem_of_mem_filter hpage
  rw [← flatten_inPairs d.rows]
  exact List.mem_flatten_of_mem hpairs hrow

/-- **Each item that is read is that of a row**, whatever else was delivered and however reading
ended. -/
theorem exists_row_of_mem_read {d : Delivery} {wanted : Option Nat} {a : α}
    (h : a ∈ (d.toPages.read item wanted).items) : ∃ row ∈ d.rows, item row = .ok (some a) := by
  obtain ⟨page, hpage, row, hrow, hitem⟩ := exists_row_of_mem_readPages h
  exact ⟨row, mem_rows_of_mem_pages hpage hrow, hitem⟩

end SheetRecall.Store
