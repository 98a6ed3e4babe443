import SheetRecall.Decimal.Shortest

/-!
# Numbers as text

Integers are written in decimal.  A double is written with its shortest digits: in positional
notation while its decimal exponent lies from -4 to 15, with an exponent of at least two digits
otherwise; a double without a fraction keeps `.0`.
-/

namespace SheetRecall.Decimal

/-- The spellings of the doubles that have no digits. -/
structure Spellings where
  nan : String
  infinity : String
  negativeInfinity : String

/-- The decimal digits of a natural number. -/
def natDigits (n : Nat) : List Char := Nat.toDigits 10 n

/-- An integer in decimal. -/
def intChars : Int → List Char
  | .ofNat n => natDigits n
  | .negSucc n => '-' :: natDigits (n + 1)

/-- The exponent part: a sign and at least two digits. -/
def exponentChars (e : Int) : List Char :=
  let digits := natDigits e.natAbs
  'e' :: (if e < 0 then '-' else '+') :: (if digits.length < 2 then '0' :: digits else digits)

/-- Digits laid out with the point after the first `point` of them. -/
def layOut (digits : List Char) (point : Int) : List Char :=
  let exponent := point - 1
  if exponent < -4 || 16 ≤ exponent then
    match digits with
    | [] => []
    | [d] => d :: exponentChars exponent
    | d :: more => d :: '.' :: more ++ exponentChars exponent
  else if point ≤ 0 then
    '0' :: '.' :: List.replicate (-point).toNat '0' ++ digits
  else
    let whole := point.toNat
    if digits.length ≤ whole then
      digits ++ List.replicate (whole - digits.length) '0' ++ ['.', '0']
    else digits.take whole ++ '.' :: digits.drop whole

/-- The text of a decimal. -/
def Numeral.chars (d : Numeral) : List Char :=
  if d.digits = 0 then ['0', '.', '0']
  else
    let digits := natDigits d.digits
    layOut digits (digits.length + d.exponent)

/-- A double as text. -/
def floatChars (spellings : Spellings) (x : Float) : List Char :=
  match parts x with
  | .nan => spellings.nan.toList
  | .infinite neg => (if neg then spellings.negativeInfinity else spellings.infinity).toList
  | .finite neg m q => (if neg then ['-'] else []) ++ (shortest m q).chars

end SheetRecall.Decimal
