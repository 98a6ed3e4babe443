import SheetRecall.Decimal.Binary
import SheetRecall.Text.Slice
import SheetRecall.Text.Case

/-!
# Reading numbers

Two grammars of written numbers.  The wide one takes decimal digits of every script, blanks on
both sides, a sign, and single low lines between digits.  What a text denotes is found in two
steps: the grammar gives digits and exponents, `ofDecimal` the nearest double.
-/

namespace SheetRecall.Decimal

open SheetRecall.Text

/-! ## From digits to numbers -/

/-- The natural number with these decimal digits. -/
def ofDigits (digits : List Nat) : Nat := digits.foldl (fun n d => 10 * n + d) 0

/-- The double nearest to `digits * 10 ^ exponent`; beyond the range of doubles it is infinity
or zero. -/
def ofDecimal (neg : Bool) (digits : Nat) (exponent : Int) : Float :=
  let size := Int.ofNat (Nat.toDigits 10 digits).length + exponent
  let magnitude :=
    if digits = 0 || size < -400 then 0.0
    else if 400 < size then infinity false
    else Float.ofScientific digits (exponent < 0) exponent.natAbs
  if neg then -magnitude else magnitude

/-- The double nearest to an integer, unless the integer is beyond the range of doubles. -/
def ofInt? (n : Int) : Option Float :=
  let x := ofDecimal (n < 0) n.natAbs 0
  if isFinite x then some x else none

/-! ## Digit runs -/

/-- Takes the digits that follow a digit; with `separators`, a low line may stand before each. -/
def takeMoreDigits (value? : Char → Option Nat) (separators : Bool) :
    List Char → List Nat × List Char
  | [] => ([], [])
  | [c] =>
    match value? c with
    | some d => ([d], [])
    | none => ([], [c])
  | c :: next :: rest =>
    match value? c with
    | some d =>
      let (digits, left) := takeMoreDigits value? separators (next :: rest)
      (d :: digits, left)
    | none =>
      match value? next with
      | some d =>
        if separators && c == '_' then
          let (digits, left) := takeMoreDigits value? separators rest
          (d :: digits, left)
        else ([], c :: next :: rest)
      | none => ([], c :: next :: rest)

/-- Takes digits from the front; with `separators`, a low line may stand between two digits. -/
def takeDigits (value? : Char → Option Nat) (separators : Bool) :
    List Char → List Nat × List Char
  | [] => ([], [])
  | c :: rest =>
    match value? c with
    | some d =>
      let (digits, left) := takeMoreDigits value? separators rest
      (d :: digits, left)
    | none => ([], c :: rest)

/-- Takes the digits of a plain integer: a zero that stands alone, or a run of ASCII digits that
starts with no zero. -/
def takePlain : List Char → List Nat × List Char
  | '0' :: rest => ([0], rest)
  | cs => takeDigits asciiDigit? false cs

/-- A sign in front; the answer is whether it was a minus. -/
def takeSign : List Char → Bool × List Char
  | '-' :: rest => (true, rest)
  | '+' :: rest => (false, rest)
  | rest => (false, rest)

/-! ## Whole numbers -/

/-- More digits than this are not read as an integer. -/
def maxIntegerDigits : Nat := 4300

/-- Why a text is no integer. -/
inductive IntegerFault where
  | malformed
  /-- The text has so many digits. -/
  | tooLong (digits : Nat)
  deriving Repr, DecidableEq

/-- Reads an integer: sign and digits of any script, with blanks around.  Of a text that has too
many digits and goes wrong behind them, the digits are told first. -/
def readInt (cs : List Char) : Except IntegerFault Int :=
  let (neg, rest) := takeSign (trimBy isNumberMargin cs)
  let (digits, left) := takeDigits digitValue? true rest
  if digits.isEmpty || left.head? = some '_' then .error .malformed
  else if maxIntegerDigits < digits.length then .error (.tooLong digits.length)
  else if !left.isEmpty then .error .malformed
  else
    let n := Int.ofNat (ofDigits digits)
    .ok (if neg then -n else n)

/-! ## Floating point numbers -/

/-- The parts of a written number behind its sign. -/
structure Written where
  whole : List Nat
  fraction : List Nat
  exponent : Int

/-- An exponent part: the letter, a sign, at least one digit; none is exponent zero. -/
def takeExponent (value? : Char → Option Nat) (separators : Bool) (cs : List Char) :
    Option (Int × List Char) :=
  match cs with
  | c :: rest =>
    if c = 'e' || c = 'E' then
      let (neg, rest) := takeSign rest
      match takeDigits value? separators rest with
      | ([], _) => none
      | (digits, left) =>
        let n := Int.ofNat (ofDigits digits)
        some (if neg then -n else n, left)
    else some (0, cs)
  | [] => some (0, [])

/-- A number behind its sign: digits with a point before, among or after them, and an exponent. -/
def readWritten? (value? : Char → Option Nat) (separators : Bool) (cs : List Char) :
    Option Written :=
  let (whole, rest) := takeDigits value? separators cs
  let (fraction, rest) :=
    match rest with
    | '.' :: rest => takeDigits value? separators rest
    | rest => ([], rest)
  if whole.isEmpty && fraction.isEmpty then none
  else
    match takeExponent value? separators rest with
    | some (exponent, []) => some ⟨whole, fraction, exponent⟩
    | _ => none

/-- The double that a written number denotes. -/
def Written.toFloat (w : Written) (neg : Bool) : Float :=
  ofDecimal neg (ofDigits (w.whole ++ w.fraction)) (w.exponent - Int.ofNat w.fraction.length)

/-- The spelled-out numbers: `nan`, `inf` and `infinity` in any case. -/
def readSpelled? (neg : Bool) (cs : List Char) : Option Float :=
  match String.ofList (cs.map Char.toLower) with
  | "nan" => some nan
  | "inf" => some (infinity neg)
  | "infinity" => some (infinity neg)
  | _ => none

/-- Reads a double after trimming: sign, then a spelled-out or a written number. -/
def readTrimmedFloat? (value? : Char → Option Nat) (separators : Bool) (cs : List Char) :
    Option Float :=
  let (neg, rest) := takeSign cs
  match readSpelled? neg rest with
  | some x => some x
  | none => (readWritten? value? separators rest).map (·.toFloat neg)

/-- Reads a double: digits of any script, with blanks around. -/
def readFloat? (cs : List Char) : Option Float :=
  readTrimmedFloat? digitValue? true (trimBy isNumberMargin cs)

end SheetRecall.Decimal
