import SheetRecall.Value.Basic
import SheetRecall.Decimal.Reading
import SheetRecall.Text.Encoding

/-!
# Reading JSON

One reader for JSON text with the names `NaN`, `Infinity` and `-Infinity` for the doubles that
are no decimal.  A number with a fraction or an exponent is a double, any other an integer; a
repeated key keeps its first place and takes its last value.

Each part of the reader answers with what it read and the rest of the text, or with the number of
characters that were left where it could not go on.  The reader counts down fuel with each value,
and a text has fewer values than characters.  Values nest only so deep as the manner of reading
allows.
-/

namespace SheetRecall.Json

open SheetRecall.Text SheetRecall.Decimal

/-- Why a text is not read. -/
inductive ReadFault where
  /-- The text is no JSON; so many characters were left where that showed. -/
  | malformed (left : Nat)
  /-- An integer has more digits than are read. -/
  | longInteger
  /-- A value stands in more lists and maps than are followed. -/
  | tooDeep
  deriving Repr, DecidableEq

/-- What a reader does with half a surrogate pair, which the grammar of JSON allows and a text
cannot hold: it takes the text for malformed, or puts a mark in its place. -/
inductive HalfPair where
  | refused
  | marked
  deriving Repr, DecidableEq

/-- How a JSON text is read. -/
structure Manner where
  half : HalfPair
  /-- In how many lists and maps a value may stand. -/
  maxDepth : Nat
  /-- Doubles, too, may not have more digits before the point than integers. -/
  limitsWhole : Bool
  deriving Repr, DecidableEq

namespace Manner

/-- The manner for texts that a person or a model wrote. -/
def lenient : Manner := ⟨.marked, 980, false⟩

/-- The manner for texts of a fixed form. -/
def strict : Manner := ⟨.refused, 200, true⟩

end Manner

/-- The blanks between the parts of a JSON text. -/
def isJsonBlank (c : Char) : Bool := c = ' ' || c = '\t' || c = '\n' || c = '\r'

/-- Drops the blanks in front. -/
def skipBlanks (cs : List Char) : List Char := cs.dropWhile isJsonBlank

/-! ## Texts -/

/-- The value of a digit in base sixteen. -/
def hexDigit? (c : Char) : Option Nat :=
  if '0' ≤ c && c ≤ '9' then some (c.toNat - 0x30)
  else if 'a' ≤ c && c ≤ 'f' then some (c.toNat - 0x57)
  else if 'A' ≤ c && c ≤ 'F' then some (c.toNat - 0x37)
  else none

/-- The number that four digits in base sixteen denote. -/
def hexUnit? (a b c d : Char) : Option Nat := do
  some (((← hexDigit? a) * 16 + (← hexDigit? b)) * 256 + (← hexDigit? c) * 16 + (← hexDigit? d))

/-- The character of a short escape. -/
def shortEscape? (c : Char) : Option Char :=
  if c = '"' then some '"'
  else if c = '\\' then some '\\'
  else if c = '/' then some '/'
  else if c = 'b' then some '\x08'
  else if c = 'f' then some '\x0c'
  else if c = 'n' then some '\n'
  else if c = 'r' then some '\r'
  else if c = 't' then some '\t'
  else none

/-- The unit opens a surrogate pair. -/
def isHighHalf (unit : Nat) : Bool := 0xd800 ≤ unit && unit < 0xdc00

/-- The unit closes a surrogate pair. -/
def isLowHalf (unit : Nat) : Bool := 0xdc00 ≤ unit && unit < 0xe000

/-- Why the characters of a text are not read. -/
inductive CharFault where
  /-- The text has no closing quote. -/
  | unclosed
  /-- A character does not belong there; so many were left. -/
  | misplaced (left : Nat)
  deriving Repr, DecidableEq

/-- The characters up to the closing quote, and what follows the quote. -/
def readChars (half : HalfPair) : List Char → Except CharFault (List Char × List Char)
  | [] => .error .unclosed
  | '"' :: rest => .ok ([], rest)
  | '\\' :: 'u' :: a :: b :: c :: d :: '\\' :: 'u' :: e :: f :: g :: h :: rest =>
    match hexUnit? a b c d with
    | none => .error (.misplaced (rest.length + 11))
    | some unit =>
      if isHighHalf unit then
        match (if rest.isEmpty then none else hexUnit? e f g h) with
        | none => .error (.misplaced (rest.length + 5))
        | some low =>
          if isLowHalf low then
            let code := 0x10000 + (unit - 0xd800) * 0x400 + (low - 0xdc00)
            (readChars half rest).map fun (cs, left) => (Char.ofNat code :: cs, left)
          else
            match half with
            | .refused => .error (.misplaced (rest.length + 11))
            | .marked =>
              (readChars half ('\\' :: 'u' :: e :: f :: g :: h :: rest)).map
                fun (cs, left) => (halfPair :: cs, left)
      else
        match single half unit with
        | none => .error (.misplaced (rest.length + 11))
        | some x =>
          (readChars half ('\\' :: 'u' :: e :: f :: g :: h :: rest)).map
            fun (cs, left) => (x :: cs, left)
  | '\\' :: 'u' :: a :: b :: c :: d :: rest =>
    match (if rest.isEmpty then none else (hexUnit? a b c d).bind (single half)) with
    | none => .error (.misplaced (rest.length + 5))
    | some x => (readChars half rest).map fun (cs, left) => (x :: cs, left)
  | ['\\'] => .error .unclosed
  | '\\' :: c :: rest =>
    match shortEscape? c with
    | none => .error (.misplaced (if c = 'u' then rest.length + 1 else rest.length + 2))
    | some x => (readChars half rest).map fun (cs, left) => (x :: cs, left)
  | c :: rest =>
    if c.toNat < 0x20 then .error (.misplaced (rest.length + 1))
    else (readChars half rest).map fun (cs, left) => (c :: cs, left)
where
  /-- The character of a unit that stands alone. -/
  single (half : HalfPair) (unit : Nat) : Option Char :=
    if isHighHalf unit || isLowHalf unit then
      match half with
      | .refused => none
      | .marked => some halfPair
    else some (Char.ofNat unit)

/-- A text behind its opening quote, and what follows it. -/
def readText (half : HalfPair) (cs : List Char) : Except ReadFault (String × List Char) :=
  match readChars half cs with
  | .ok (chars, left) => .ok (String.ofList chars, left)
  | .error .unclosed => .error (.malformed (cs.length + 1))
  | .error (.misplaced left) => .error (.malformed left)

/-! ## Numbers -/

/-- Takes ASCII digits from the front. -/
def takeAsciiDigits (cs : List Char) : List Nat × List Char := takeDigits asciiDigit? false cs

/-- A fraction: a point with at least one digit behind it. -/
def takeFraction (cs : List Char) : Option (List Nat × List Char) :=
  match cs with
  | '.' :: rest =>
    match takeAsciiDigits rest with
    | ([], _) => none
    | (digits, left) => some (digits, left)
  | _ => none

/-- An exponent: a letter, perhaps a sign, at least one digit. -/
def takePower (cs : List Char) : Option (Int × List Char) :=
  match cs with
  | c :: rest =>
    if c = 'e' || c = 'E' then
      let (neg, rest) := takeSign rest
      match takeAsciiDigits rest with
      | ([], _) => none
      | (digits, left) =>
        let n := Int.ofNat (ofDigits digits)
        some (if neg then -n else n, left)
    else none
  | [] => none

/-- The digits before the point are more than are read. -/
def isLongWhole (m : Manner) (whole : List Nat) : Bool :=
  m.limitsWhole && maxIntegerDigits < whole.length

/-- A number behind its sign; a fraction or an exponent that is not well-formed is left in the
text. -/
def readNumber (m : Manner) (neg : Bool) (cs : List Char) :
    Except ReadFault (Value × List Char) :=
  match takePlain cs with
  | ([], _) => .error (.malformed (if neg then cs.length + 1 else cs.length))
  | (whole, rest) =>
    if isLongWhole m whole then .error .longInteger
    else
      match takeFraction rest with
      | some (fraction, rest) =>
        let (exponent, rest) := (takePower rest).getD (0, rest)
        .ok (.float ((Written.mk whole fraction exponent).toFloat neg), rest)
      | none =>
        match takePower rest with
        | some (exponent, rest) => .ok (.float ((Written.mk whole [] exponent).toFloat neg), rest)
        | none =>
          if maxIntegerDigits < whole.length then .error .longInteger
          else
            let n := Int.ofNat (ofDigits whole)
            .ok (.int (if neg then -n else n), rest)

/-! ## Values -/

/-- A value that a fixed word stands for, or a number. -/
def readWordOrNumber (m : Manner) (cs : List Char) : Except ReadFault (Value × List Char) :=
  match cs with
  | 'n' :: 'u' :: 'l' :: 'l' :: rest => .ok (.null, rest)
  | 't' :: 'r' :: 'u' :: 'e' :: rest => .ok (.bool true, rest)
  | 'f' :: 'a' :: 'l' :: 's' :: 'e' :: rest => .ok (.bool false, rest)
  | 'N' :: 'a' :: 'N' :: rest => .ok (.float nan, rest)
  | 'I' :: 'n' :: 'f' :: 'i' :: 'n' :: 'i' :: 't' :: 'y' :: rest =>
    .ok (.float (infinity false), rest)
  | '-' :: 'I' :: 'n' :: 'f' :: 'i' :: 'n' :: 'i' :: 't' :: 'y' :: rest =>
    .ok (.float (infinity true), rest)
  | '-' :: rest => readNumber m true rest
  | rest => readNumber m false rest

mutual

/-- A value at the front of the text; `room` is the number of lists and maps that may be opened. -/
def readValue (m : Manner) :
    Nat → Nat → List Char → Except ReadFault (Value × List Char)
  | 0, _, cs => .error (.malformed cs.length)
  | fuel + 1, room, cs =>
    match cs with
    | '"' :: rest =>
      (readText m.half rest).map fun (s, left) => (.text s, left)
    | '[' :: rest =>
      match skipBlanks rest with
      | ']' :: left => .ok (.list [], left)
      | rest => do
        if room = 0 then throw .tooDeep
        let (items, left) ← readItems m fuel (room - 1) rest
        .ok (.list items, left)
    | '{' :: rest =>
      match skipBlanks rest with
      | '}' :: left => .ok (.map [], left)
      | rest => do
        if room = 0 then throw .tooDeep
        let (fields, left) ← readFields m fuel (room - 1) rest
        .ok (.map (Entries.ofPairs fields), left)
    | cs => readWordOrNumber m cs

/-- The items of a list up to its closing bracket. -/
def readItems (m : Manner) :
    Nat → Nat → List Char → Except ReadFault (List Value × List Char)
  | 0, _, cs => .error (.malformed cs.length)
  | fuel + 1, room, cs => do
    let (v, rest) ← readValue m fuel room cs
    match skipBlanks rest with
    | ']' :: left => .ok ([v], left)
    | ',' :: rest =>
      let (vs, left) ← readItems m fuel room (skipBlanks rest)
      .ok (v :: vs, left)
    | rest => .error (.malformed rest.length)

/-- The fields of a map up to its closing brace. -/
def readFields (m : Manner) :
    Nat → Nat → List Char → Except ReadFault (List (String × Value) × List Char)
  | 0, _, cs => .error (.malformed cs.length)
  | fuel + 1, room, cs =>
    match cs with
    | '"' :: rest => do
      let (key, rest) ← readText m.half rest
      match skipBlanks rest with
      | ':' :: rest =>
        let (v, rest) ← readValue m fuel room (skipBlanks rest)
        match skipBlanks rest with
        | '}' :: left => .ok ([(key, v)], left)
        | ',' :: rest =>
          let (fields, left) ← readFields m fuel room (skipBlanks rest)
          .ok ((key, v) :: fields, left)
        | rest => .error (.malformed rest.length)
      | rest => .error (.malformed rest.length)
    | cs => .error (.malformed cs.length)

end

/-- The value that a whole text denotes. -/
def read (m : Manner) (s : String) : Except ReadFault Value := do
  let cs := skipBlanks s.toList
  let (v, rest) ← readValue m (2 * cs.length + 2) m.maxDepth cs
  match skipBlanks rest with
  | [] => .ok v
  | rest => .error (.malformed rest.length)

end SheetRecall.Json
