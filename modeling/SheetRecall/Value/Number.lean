import SheetRecall.Value.Basic
import SheetRecall.Decimal.Binary

/-!
# Numbers of either kind

Integers and doubles compare by the exact numbers they stand for; a boolean counts as zero or
one.  Nothing compares with the double that is no number.
-/

namespace SheetRecall

/-- An integer or a double. -/
inductive Number where
  | int (n : Int)
  | float (x : Float)

namespace Number

/-- How two doubles stand to each other. -/
def compareFloats (x y : Float) : Option Ordering :=
  if x < y then some .lt
  else if x == y then some .eq
  else if y < x then some .gt
  else none

/-- How two numbers stand to each other. -/
def compare : Number → Number → Option Ordering
  | int m, int n => some (Ord.compare m n)
  | int m, float y => Decimal.compareInt m y
  | float x, int n => (Decimal.compareInt n x).map Ordering.swap
  | float x, float y => compareFloats x y

/-- The numbers are equal. -/
def same (a b : Number) : Bool := a.compare b == some .eq

/-- The number is the double that is no number. -/
def isNone : Number → Bool
  | int _ => false
  | float x => x.isNaN

/-- The numbers are equal, or neither is one. -/
def alike (a b : Number) : Bool := a.same b || (a.isNone && b.isNone)

/-- The first number is below the second. -/
def lt (a b : Number) : Bool := a.compare b == some .lt

/-- The first number is at most the second. -/
def le (a b : Number) : Bool := a.lt b || a.same b

end Number

/-- The integers from minus this bound up to it, without it, fit into a machine word. -/
def Number.wordBound : Int := Int.ofNat (Decimal.powTwo 63)

/-- The integer fits into a machine word. -/
def Number.isWord (n : Int) : Bool := -wordBound ≤ n && n < wordBound

/-- The number that a value stands for. -/
def Value.number? : Value → Option Number
  | bool b => some (.int (if b then 1 else 0))
  | int n => some (.int n)
  | float x => some (.float x)
  | _ => none

end SheetRecall
