import SheetRecall.Text.CharClass

/-!
# Cutting texts

Trimming, splitting and searching over lists of characters.  A cut answers with both parts, so
that `before ++ found ++ after` is the text that was cut.
-/

namespace SheetRecall.Text

/-! ## Trimming -/

/-- Drops the characters of a class from both ends. -/
def trimBy (inClass : Char → Bool) (cs : List Char) : List Char :=
  ((cs.dropWhile inClass).reverse.dropWhile inClass).reverse

/-- Drops the blanks from both ends. -/
def trimChars (cs : List Char) : List Char := trimBy isBlank cs

/-- Drops the blanks from both ends of a string. -/
def trim (s : String) : String := String.ofList (trimChars s.toList)

/-! ## Searching -/

/-- What follows `word` when the text starts with it. -/
def dropWord? : List Char → List Char → Option (List Char)
  | [], rest => some rest
  | _ :: _, [] => none
  | w :: word, c :: rest => if w = c then dropWord? word rest else none

/-- The parts before and after the first occurrence of `word`. -/
def cutAt? (word : List Char) : List Char → Option (List Char × List Char)
  | [] => if word.isEmpty then some ([], []) else none
  | c :: rest =>
    match dropWord? word (c :: rest) with
    | some after => some ([], after)
    | none => (cutAt? word rest).map fun parts => (c :: parts.1, parts.2)

/-- `word` occurs in the text. -/
def occursIn (word cs : List Char) : Bool := (cutAt? word cs).isSome

/-- The string `word` occurs in the string `s`. -/
def contains (s word : String) : Bool := occursIn word.toList s.toList

/-! ## Splitting -/

/-- The pieces between the occurrences of a separator; always at least one piece. -/
def splitOn (separator : Char) : List Char → List (List Char)
  | [] => [[]]
  | c :: rest =>
    match splitOn separator rest with
    | [] => [[]]
    | piece :: pieces =>
      if c = separator then [] :: piece :: pieces else (c :: piece) :: pieces

/-- The lines of a text without their ends; a carriage return with a line feed is one end, and
an end that closes the text opens no further line. -/
def lines : List Char → List (List Char)
  | [] => []
  | '\r' :: '\n' :: rest => [] :: lines rest
  | c :: rest =>
    if isLineEnd c then [] :: lines rest
    else
      match lines rest with
      | [] => [[c]]
      | line :: more => (c :: line) :: more

/-- The pieces with a separator between each two. -/
def joinWith (separator : List Char) : List (List Char) → List Char
  | [] => []
  | [piece] => piece
  | piece :: pieces => piece ++ separator ++ joinWith separator pieces

end SheetRecall.Text
