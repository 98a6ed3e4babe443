import SheetRecall.Decimal.Binary

/-!
# The shortest decimal of a double

Among the decimals that read back as a given double, the one with the fewest digits; of two with
equally many, the nearer.  The search goes from coarse grids of decimals to fine ones and stops
at the first grid with a decimal that reads back.
-/

namespace SheetRecall.Decimal

/-- The decimal `digits * 10 ^ exponent`. -/
structure Numeral where
  digits : Nat
  exponent : Int
  deriving Repr, DecidableEq

/-- Compares `d * 10 ^ k` with `x * 2 ^ q` by cross-multiplication. -/
def compareScaled (d : Nat) (k : Int) (x : Nat) (q : Int) : Ordering :=
  compare (d * powTen k.toNat * powTwo (-q).toNat) (x * powTwo q.toNat * powTen (-k).toNat)

/-- The decimals that round to `m * 2 ^ q`, in quarters of the last place: an end belongs to the
interval exactly when the mantissa is even. -/
structure Interval where
  low : Nat
  high : Nat
  scale : Int
  closed : Bool

/-- The interval around a mantissa: below the least mantissa of a binade the gap is half as wide. -/
def interval (m : Nat) (q : Int) : Interval where
  low := if m = powTwo 52 && decide (-1074 < q) then 4 * m - 1 else 4 * m - 2
  high := 4 * m + 2
  scale := q - 2
  closed := m % 2 == 0

/-- The decimal `d * 10 ^ k` lies in the interval. -/
def Interval.has (i : Interval) (d : Nat) (k : Int) : Bool :=
  match compareScaled d k i.low i.scale, compareScaled d k i.high i.scale with
  | .gt, .lt => true
  | .eq, _ => i.closed
  | _, .eq => i.closed
  | _, _ => false

/-- The greatest `d` with `d * 10 ^ k` not above `m * 2 ^ q`. -/
def floorOnGrid (m : Nat) (q k : Int) : Nat :=
  m * powTwo q.toNat * powTen (-k).toNat / (powTwo (-q).toNat * powTen k.toNat)

/-- The neighbour of `m * 2 ^ q` on the grid of `10 ^ k` that reads back, the nearer of two. -/
def onGrid? (m : Nat) (q k : Int) : Option Nat :=
  let below := floorOnGrid m q k
  let i := interval m q
  match i.has below k, i.has (below + 1) k with
  | true, true =>
    -- twice the value against the sum of the neighbours
    match compareScaled (2 * below + 1) k (2 * m) q with
    | .gt => some below
    | .lt => some (below + 1)
    | .eq => some (if below % 2 = 0 then below else below + 1)
  | true, false => some below
  | false, true => some (below + 1)
  | false, false => none

/-- Searches the grids from `10 ^ k` downwards. -/
def searchGrids (m : Nat) (q : Int) : Nat → Int → Numeral
  | 0, k => ⟨floorOnGrid m q k, k⟩
  | steps + 1, k =>
    match onGrid? m q k with
    | some d => ⟨d, k⟩
    | none => searchGrids m q steps (k - 1)

/-- A power of ten above `m * 2 ^ q`: a binary digit is less than a third of a decimal one. -/
def gridAbove (m : Nat) (q : Int) : Int :=
  (Int.ofNat m.log2 + q) * 30103 / 100000 + 1

/-- The shortest decimal of `m * 2 ^ q`. -/
def shortest (m : Nat) (q : Int) : Numeral :=
  if m = 0 then ⟨0, 0⟩ else searchGrids m q 22 (gridAbove m q)

end SheetRecall.Decimal
