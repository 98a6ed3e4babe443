import SheetRecall.Fault
import SheetRecall.Value.Basic

/-!
# Deliveries

What a store answers to a query: rows, one after the other, and at their end perhaps a fault.  A
reader that takes whole pages does not see the rows of a page that a fault cuts short, and may stop
as soon as it has enough.
-/

namespace SheetRecall.Store

/-- Rows, and the fault that ends them, if one does. -/
structure Delivery where
  rows : List Value
  failure : Option Fault := none

/-- Pages of rows, and the fault that ends them, if one does. -/
structure Pages where
  pages : List (List Value)
  failure : Option Fault := none

/-- How many rows a page has. -/
def pageSize : Nat := 2

/-- The rows two by two; the last row may be alone. -/
def inPairs : List α → List (List α)
  | [] => []
  | [x] => [[x]]
  | x :: y :: rest => [x, y] :: inPairs rest

/-- The pages of a delivery; a fault takes the page with it that it falls into. -/
def Delivery.toPages (d : Delivery) : Pages :=
  match d.failure with
  | none => ⟨inPairs d.rows, none⟩
  | some fault => ⟨(inPairs d.rows).filter fun page => page.length = pageSize, some fault⟩

/-- All rows of a delivery, or the fault that ends it. -/
def Delivery.collect (d : Delivery) : Except Fault (List Value) :=
  match d.failure with
  | none => .ok d.rows
  | some fault => .error fault

/-! ## Reading page by page -/

/-- How reading ends. -/
inductive Ending where
  /-- There is nothing left. -/
  | finished
  /-- The reader has enough. -/
  | satisfied
  /-- The store or the reader failed. -/
  | failed (fault : Fault)

/-- What a reader got: items, the number of pages that were delivered, and how it ended. -/
structure Reading (α : Type) where
  items : List α
  pages : Nat
  ending : Ending

/-- What a reader got from one page, and how many items it still wants if it goes on. -/
structure PageReading (α : Type) where
  items : List α
  stop : Option Ending
  wanted : Option Nat

/-- Reads the rows of a page.  A row gives one item or none; `wanted` is the number of items after
which the reader stops. -/
def readPage (item : Value → Except Fault (Option α)) :
    Option Nat → List Value → PageReading α
  | wanted, [] => ⟨[], none, wanted⟩
  | wanted, row :: rows =>
    match item row with
    | .error fault => ⟨[], some (.failed fault), wanted⟩
    | .ok none => readPage item wanted rows
    | .ok (some a) =>
      if wanted.any (· ≤ 1) then ⟨[a], some .satisfied, some 0⟩
      else
        let more := readPage item (wanted.map (· - 1)) rows
        { more with items := a :: more.items }

/-- Reads page after page. -/
def readPages (item : Value → Except Fault (Option α)) (failure : Option Fault) :
    Option Nat → List (List Value) → Reading α
  | _, [] => ⟨[], 0, failure.elim .finished .failed⟩
  | wanted, page :: pages =>
    let first := readPage item wanted page
    match first.stop with
    | some ending => ⟨first.items, 1, ending⟩
    | none =>
      let more := readPages item failure first.wanted pages
      ⟨first.items ++ more.items, more.pages + 1, more.ending⟩

/-- Reads pages, to the end or until `wanted` items are there. -/
def Pages.read (p : Pages) (item : Value → Except Fault (Option α)) (wanted : Option Nat) :
    Reading α :=
  readPages item p.failure wanted p.pages

end SheetRecall.Store
