import SheetRecall.Column.Name
import SheetRecall.Proofs.Text.Case

/-!
# Stored Names Are Final

The stored spelling of a stored spelling is itself: it has no capital behind a small letter, and
its characters are lower-case.  So the names that are stored as they are given are those in lower
case.
-/

namespace SheetRecall.Column

open SheetRecall.Text

theorem splitHumps_eq_self {cs : List Char} (h : ∀ c ∈ cs, isCapital c = false) :
    splitHumps cs = cs := by
  induction cs using splitHumps.induct with
  | case1 => rfl
  | case2 c => rfl
  | case3 c d rest hhump ih =>
    have hd := h d (List.mem_cons_of_mem c List.mem_cons_self)
    rw [hd, Bool.and_false] at hhump
    exact absurd hhump (by decide)
  | case4 c d rest hhump ih =>
    rw [splitHumps, if_neg hhump, ih fun e he => h e (List.mem_cons_of_mem c he)]

/-- The characters of a stored spelling are lower-case. -/
theorem isLower_of_mem_storedChars {cs : List Char} {c : Char} (h : c ∈ storedChars cs) :
    IsLower c := isLower_of_mem_lowerChars h

/-- Lower-case characters are stored as they are. -/
theorem storedChars_eq_self {cs : List Char} (h : ∀ c ∈ cs, IsLower c) : storedChars cs = cs := by
  have hsmall : ∀ c ∈ cs, isCapital c = false := by
    intro c hc
    have hnot := (h c hc).not_capital
    simp only [isCapital, Bool.and_eq_false_iff, decide_eq_false_iff_not]
    exact not_and_or.mp hnot
  rw [storedChars, splitHumps_eq_self hsmall, lowerChars_eq_self h]

theorem storedChars_storedChars (cs : List Char) :
    storedChars (storedChars cs) = storedChars cs :=
  storedChars_eq_self fun _ hc => isLower_of_mem_storedChars hc

/-- **The stored spelling of a stored name is that name.** -/
theorem stored_stored (name : String) : stored (stored name) = stored name := by
  rw [stored, stored, String.toList_ofList, storedChars_storedChars]

/-- A stored name is in lower case. -/
theorem lower_stored (name : String) : lower (stored name) = stored name := by
  rw [lower, stored, String.toList_ofList,
    lowerChars_eq_self fun c hc => isLower_of_mem_storedChars hc]

/-- **The names that are stored as they are given are those in lower case.** -/
theorem stored_eq_self_iff (name : String) : stored name = name ↔ lower name = name := by
  constructor
  · intro h
    rw [← h]
    exact lower_stored name
  · intro h
    have hchars : lowerChars name.toList = name.toList := by
      have hlists := congrArg String.toList h
      rwa [lower, String.toList_ofList] at hlists
    have hlower : ∀ c ∈ name.toList, IsLower c := by
      rw [← hchars]
      exact fun c hc => isLower_of_mem_lowerChars hc
    rw [stored, storedChars_eq_self hlower, String.ofList_toList]

end SheetRecall.Column
