import SheetRecall.Schema.Issue
import SheetRecall.Value.Number
import SheetRecall.Decimal.Reading
import SheetRecall.Text.Encoding

/-!
# Checks

A check turns a value of any kind into one of a fixed kind, or says what is wrong.  The checks are
lax: a number may be written as a text or a boolean, a boolean as a word.  Texts of numbers are
ASCII.
-/

namespace SheetRecall.Schema

open SheetRecall.Text SheetRecall.Decimal

/-! ## Texts -/

/-- A text. -/
def checkText : Value → Checked String
  | .text s => .ok s
  | _ => fail .notText

/-- A value that is no text with half a surrogate pair, as JSON may hold one. -/
def unbroken (check : Value → Checked α) (v : Value) : Checked α :=
  match v with
  | .text s => if isWhole s then check v else fail .brokenText
  | v => check v

/-! ## Numbers -/

/-- The text without its low lines, if each of them stands alone between other characters. -/
def withoutLowLines? (cs : List Char) : Option (List Char) :=
  if cs.head? = some '_' || cs.getLast? = some '_' || !cs.contains '_'
      || occursIn ['_', '_'] cs then none
  else some (cs.filter (· ≠ '_'))

/-- Reads a double from a text. -/
def readAsciiFloat? (cs : List Char) : Option Float :=
  match readTrimmedFloat? asciiDigit? false (trimBy isNumberMargin cs) with
  | some x => some x
  | none => (withoutLowLines? cs).bind (readTrimmedFloat? asciiDigit? false)

/-- A double; integers beyond the range of doubles are none. -/
def checkFloat : Value → Checked Float
  | .float x => .ok x
  | .bool b => .ok (if b then 1.0 else 0.0)
  | .int n =>
    match ofInt? n with
    | some x => .ok x
    | none => fail .notNumber
  | .text s =>
    match readAsciiFloat? s.toList with
    | some x => .ok x
    | none => fail .unreadableNumber
  | _ => fail .notNumber

/-- A double read from JSON: an integer beyond the range of doubles is infinity. -/
def checkJsonFloat : Value → Checked Float
  | .int n => .ok (ofDecimal (n < 0) n.natAbs 0)
  | v => checkFloat v

/-- A minus in front; the answer is whether there was one. -/
def takeMinus : List Char → Bool × List Char
  | '-' :: rest => (true, rest)
  | rest => (false, rest)

/-- Reads an integer as it stands in JSON.  Of a text that has too many digits and goes wrong behind
them, the digits are told first. -/
def readPlainInt (cs : List Char) : Except IntegerFault Int :=
  let (neg, rest) := takeMinus cs
  let (digits, left) := takePlain rest
  if maxIntegerDigits < digits.length then .error (.tooLong digits.length)
  else if digits.isEmpty || !left.isEmpty then .error .malformed
  else
    let n := Int.ofNat (ofDigits digits)
    .ok (if neg then -n else n)

/-- The digit is none of the zeros in front. -/
def isLeadingDigit (c : Char) : Bool := '1' ≤ c && c ≤ '9'

/-- What is left behind zeros and low lines, the last of which is `last`: from a digit or a minus
on, or from the character before a point; of nothing else, `last` alone. -/
def behindZeros? (last : Char) : List Char → Option (List Char)
  | [] => some [last]
  | c :: rest =>
    if c = '0' || c = '_' then behindZeros? c rest
    else if isLeadingDigit c || c = '-' then some (c :: rest)
    else if c = '.' then some (last :: c :: rest)
    else none

/-- Drops the zeros in front of a number, and the low lines among them. -/
def dropZeros? : List Char → Option (List Char)
  | '0' :: rest => behindZeros? '0' rest
  | c :: rest => if isLeadingDigit c || c = '-' then some (c :: rest) else none
  | [] => none

/-- Drops a fraction that holds nothing but zeros. -/
def dropZeroFraction (cs : List Char) : List Char :=
  match cutAt? ['.'] cs with
  | some (whole, zeros) => if !zeros.isEmpty && zeros.all (· = '0') then whole else cs
  | none => cs

/-- Drops a plus in front that stands before anything but a minus. -/
def dropPlus? : List Char → Option (List Char)
  | '+' :: '-' :: _ => none
  | '+' :: rest => some rest
  | rest => some rest

/-- A number put the way JSON writes an integer: without blanks around it, a plus, zeros in front,
a fraction of zeros, or low lines between digits. -/
def plainForm? (cs : List Char) : Option (List Char) := do
  let (neg, rest) := takeMinus (← dropPlus? (trimBy isNumberMargin cs))
  let digits := dropZeroFraction (← dropZeros? rest)
  let plain := (withoutLowLines? digits).getD digits
  some (if neg then '-' :: plain else plain)

/-- Reads an integer from a text: as it stands, or put the way JSON writes it. -/
def readAsciiInt (cs : List Char) : Checked Int :=
  match readPlainInt cs with
  | .ok n => .ok n
  | .error (.tooLong _) => fail .integerOutOfRange
  | .error .malformed =>
    match (plainForm? cs).map readPlainInt with
    | some (.ok n) => .ok n
    | _ => fail .unreadableInteger

/-- The integer that a double without fraction stands for, if it lies well within a machine
word. -/
def wordOfFloat? (x : Float) : Option Int :=
  (integer? x).filter fun n => -Number.wordBound < n && n < Number.wordBound

/-- An integer. -/
def checkInt : Value → Checked Int
  | .int n => .ok n
  | .bool b => .ok (if b then 1 else 0)
  | .float x =>
    if !isFinite x then fail .notFinite
    else
      match integer? x, wordOfFloat? x with
      | none, _ => fail .integerWithFraction
      | _, none => fail .integerOutOfRange
      | _, some n => .ok n
  | .text s => readAsciiInt s.toList
  | _ => fail .notInteger

/-- A value that is not below a bound. -/
def atLeast (low : Number) (number : α → Number) (checked : Checked α) : Checked α := do
  let x ← checked
  match (number x).compare low with
  | some .lt => fail .belowMinimum
  | none => fail .belowMinimum
  | _ => .ok x

/-- A value that is not above a bound. -/
def atMost (high : Number) (number : α → Number) (checked : Checked α) : Checked α := do
  let x ← checked
  match (number x).compare high with
  | some .gt => fail .aboveMaximum
  | none => fail .aboveMaximum
  | _ => .ok x

/-! ## Booleans -/

/-- The words for yes, in lower case. -/
def yesWords : List String := ["1", "on", "t", "true", "y", "yes"]

/-- The words for no, in lower case. -/
def noWords : List String := ["0", "off", "f", "false", "n", "no"]

/-- Reads a boolean from an integer that fits into a machine word; a greater one is none. -/
def boolOfInt (n : Int) : Checked Bool :=
  if n = 0 then .ok false
  else if n = 1 then .ok true
  else if Number.isWord n then fail .unreadableBoolean
  else fail .notBoolean

/-- A boolean. -/
def checkBool : Value → Checked Bool
  | .bool b => .ok b
  | .int n => boolOfInt n
  | .float x =>
    match wordOfFloat? x with
    | some n => boolOfInt n
    | none => fail .notBoolean
  | .text s =>
    let word := String.ofList (s.toList.map Char.toLower)
    if yesWords.contains word then .ok true
    else if noWords.contains word then .ok false
    else fail .unreadableBoolean
  | _ => fail .notBoolean

/-! ## Containers -/

/-- Null, or a value that passes the check. -/
def checkOptional (check : Value → Checked α) : Value → Checked (Option α)
  | .null => .ok none
  | v => (check v).map some

/-- Checks each item, and reports the issues of all. -/
def checkItems (check : Value → Checked α) : Nat → List Value → Checked (List α)
  | _, [] => .ok []
  | i, v :: vs =>
    (both (under (.item i) (check v)) (checkItems check (i + 1) vs)).map fun (x, xs) => x :: xs

/-- A list whose items pass a check. -/
def checkList (check : Value → Checked α) : Value → Checked (List α)
  | .list items => checkItems check 0 items
  | _ => fail .notList

/-- Checks each field, and reports the issues of all. -/
def checkFields (check : Value → Checked α) :
    List (String × Value) → Checked (List (String × α))
  | [] => .ok []
  | (key, v) :: rest =>
    (both (under (.field key) (check v)) (checkFields check rest)).map
      fun (x, xs) => (key, x) :: xs

/-- A map whose values pass a check. -/
def checkMap (check : Value → Checked α) : Value → Checked (List (String × α))
  | .map fields => checkFields check fields
  | _ => fail .notMap

/-- Any value. -/
def checkAny (v : Value) : Checked Value := .ok v

/-- The field under a key, which must be there. -/
def required (fields : Fields) (key : String) (check : Value → Checked α) : Checked α :=
  under (.field key) (match fields.get? key with
    | some v => check v
    | none => fail .absent)

/-- The field under a key, or what stands for it when it is not there. -/
def orDefault (fields : Fields) (key : String) (check : Value → Checked α) (default : α) :
    Checked α :=
  match fields.get? key with
  | some v => under (.field key) (check v)
  | none => .ok default

end SheetRecall.Schema
