/-!
# Tables of code points

A property of characters is given as closed ranges of code points, a case map as runs of
characters that all move by the same distance.  Both are plain lists, so a fact about every
entry is settled by looking at each entry once.
-/

namespace SheetRecall.Text

/-- Code points as closed ranges, in ascending order. -/
abbrev CodeRanges := List (Nat × Nat)

/-- The ranges hold the character. -/
def CodeRanges.has (ranges : CodeRanges) (c : Char) : Bool :=
  ranges.any fun range => range.1 ≤ c.toNat && c.toNat ≤ range.2

/-- Every `step`-th character from `first` to `last` maps to the one as far behind `target`. -/
structure CaseRun where
  first : Nat
  last : Nat
  step : Nat
  target : Nat

/-- The code point that a run gives for `code`, if `code` belongs to the run. -/
def CaseRun.image? (run : CaseRun) (code : Nat) : Option Nat :=
  if run.first ≤ code && code ≤ run.last && (code - run.first) % run.step == 0 then
    some (run.target + (code - run.first))
  else none

end SheetRecall.Text
