/-!
# Binary floating point numbers, taken apart

A double is a sign, a natural mantissa and a power of two.  Every exact question about a double
(its shortest decimal, its floor, its order among the integers) is asked of these parts.
-/

namespace SheetRecall.Decimal

/-- The power of two with a natural exponent. -/
def powTwo (n : Nat) : Nat := Nat.pow 2 n

/-- The power of ten with a natural exponent. -/
def powTen (n : Nat) : Nat := Nat.pow 10 n

/-- What a double stands for: `finite neg m q` is `m * 2 ^ q`, negated when `neg` holds. -/
inductive Parts where
  | nan
  | infinite (neg : Bool)
  | finite (neg : Bool) (m : Nat) (q : Int)
  deriving Repr, DecidableEq

/-- The parts of a double, read off its bits. -/
def parts (x : Float) : Parts :=
  let bits := x.toBits.toNat
  let neg := bits / powTwo 63 == 1
  let exponent := bits / powTwo 52 % powTwo 11
  let fraction := bits % powTwo 52
  if exponent = 2047 then (if fraction = 0 then .infinite neg else .nan)
  else if exponent = 0 then .finite neg fraction (-1074)
  else .finite neg (powTwo 52 + fraction) (Int.ofNat exponent - 1075)

/-- The number that is no number. -/
def nan : Float := Float.ofBits 0x7ff8000000000000

/-- Infinity of either sign. -/
def infinity (neg : Bool) : Float :=
  Float.ofBits (if neg then 0xfff0000000000000 else 0x7ff0000000000000)

/-- The double is neither infinite nor the number that is none. -/
def isFinite (x : Float) : Bool :=
  match parts x with
  | .finite .. => true
  | _ => false

/-! ## Integers beside doubles -/

/-- `m * 2 ^ q` rounded down. -/
def floorShift (m : Int) (q : Int) : Int :=
  if 0 ≤ q then m * Int.ofNat (powTwo q.toNat) else m.fdiv (Int.ofNat (powTwo (-q).toNat))

/-- The mantissa with its sign. -/
def signed (neg : Bool) (m : Nat) : Int := if neg then -(m : Int) else m

/-- The greatest integer not above a finite double. -/
def floor? (x : Float) : Option Int :=
  match parts x with
  | .finite neg m q => some (floorShift (signed neg m) q)
  | _ => none

/-- The integer that a finite double has when its fraction is cut off. -/
def truncate? (x : Float) : Option Int :=
  match parts x with
  | .finite neg m q => some (signed neg (floorShift m q).toNat)
  | _ => none

/-- The integer that a double equals. -/
def integer? (x : Float) : Option Int :=
  match parts x with
  | .finite neg m q =>
    if 0 ≤ q then some (signed neg (m * powTwo q.toNat))
    else if m % powTwo (-q).toNat = 0 then some (signed neg (m / powTwo (-q).toNat))
    else none
  | _ => none

/-- How an integer stands to a double; nothing stands to the number that is none. -/
def compareInt (n : Int) (x : Float) : Option Ordering :=
  match parts x with
  | .nan => none
  | .infinite neg => some (if neg then .gt else .lt)
  | .finite neg m q =>
    if 0 ≤ q then some (compare n (signed neg (m * powTwo q.toNat)))
    else some (compare (n * Int.ofNat (powTwo (-q).toNat)) (signed neg m))

end SheetRecall.Decimal
