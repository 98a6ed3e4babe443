/-!
# Encodings

The encodings in which the characters of a JSON text may come as bytes.  A JSON text starts with
ASCII characters, so the zeros among its first bytes tell the encoding.  Bytes from elsewhere are
read as UTF-8, whatever they are: what is not well-formed is replaced by a mark.

Units of two bytes may hold one half of a surrogate pair without the other.  No text can hold it; a
character that is reserved for such uses stands in its place, so that what is broken is not taken
for a text.
-/

namespace SheetRecall.Text

/-- What stands for half a surrogate pair. -/
def halfPair : Char := '\uFDD0'

/-- The string holds no half of a surrogate pair. -/
def isWhole (s : String) : Bool := !s.toList.contains halfPair

/-- How characters are written as bytes. -/
inductive Encoding where
  | utf8
  | utf16 (bigEndian : Bool)
  | utf32 (bigEndian : Bool)
  deriving Repr, DecidableEq

namespace Encoding

/-- The encoding of a JSON text. -/
def detect : List Nat → Encoding
  | [0, _] => utf16 true
  | [_, 0] => utf16 false
  | 0 :: b :: _ :: _ :: _ => if b = 0 then utf32 true else utf16 true
  | _ :: 0 :: b :: c :: _ => if b = 0 && c = 0 then utf32 false else utf16 false
  | _ => utf8

/-- The units of two bytes. -/
def units2? (bigEndian : Bool) : List Nat → Option (List Nat)
  | [] => some []
  | [_] => none
  | a :: b :: rest =>
    (units2? bigEndian rest).map ((if bigEndian then 256 * a + b else 256 * b + a) :: ·)

/-- The units of four bytes. -/
def units4? (bigEndian : Bool) : List Nat → Option (List Nat)
  | [] => some []
  | a :: b :: c :: d :: rest =>
    let bytes := if bigEndian then [a, b, c, d] else [d, c, b, a]
    (units4? bigEndian rest).map (bytes.foldl (fun n byte => 256 * n + byte) 0 :: ·)
  | _ => none

/-- The character of a code. -/
def charOf (code : Nat) : Char :=
  if 0xd800 ≤ code && code < 0xe000 then halfPair else Char.ofNat code

/-- The characters of units of two bytes. -/
def ofUnits : List Nat → List Char
  | a :: b :: rest =>
    if 0xd800 ≤ a && a < 0xdc00 && 0xdc00 ≤ b && b < 0xe000 then
      Char.ofNat (0x10000 + (a - 0xd800) * 0x400 + (b - 0xdc00)) :: ofUnits rest
    else charOf a :: ofUnits (b :: rest)
  | [a] => [charOf a]
  | [] => []

/-- The characters of bytes in an encoding of more than one byte for each. -/
def decodeWide? (encoding : Encoding) (bytes : List Nat) : Option (List Char) :=
  match encoding with
  | utf8 => none
  | utf16 bigEndian => (units2? bigEndian bytes).map ofUnits
  | utf32 bigEndian => do
    let codes ← units4? bigEndian bytes
    if codes.all (· < 0x110000) then some (codes.map charOf) else none

/-- The mark that a text may start with to tell its encoding. -/
def byteOrderMark : Char := '\uFEFF'

/-- The characters of a JSON text whose bytes are those of a text in UTF-8, if its own encoding
allows them. -/
def jsonChars? (text : String) : Option (List Char) :=
  let bytes := text.toUTF8.toList.map UInt8.toNat
  match detect bytes with
  | utf8 =>
    let cs := text.toList
    some (if cs.head? = some byteOrderMark then cs.drop 1 else cs)
  | encoding => decodeWide? encoding bytes

end Encoding

/-! ## Any bytes as UTF-8 -/

/-- What stands for bytes that are no character. -/
def replacement : Char := '\uFFFD'

/-- What the first byte of a character says: what is to be added to the bits of the bytes that
follow, how many bytes follow, and between which bounds the next one lies.  The bounds leave out
codes that have a shorter form, surrogates, and codes beyond the last one. -/
def leadByte? (byte : Nat) : Option (Nat × Nat × Nat × Nat) :=
  if byte < 0x80 then some (byte, 0, 0, 0)
  else if byte < 0xc2 then none
  else if byte < 0xe0 then some (byte - 0xc0, 1, 0x80, 0xbf)
  else if byte = 0xe0 then some (byte - 0xe0, 2, 0xa0, 0xbf)
  else if byte = 0xed then some (byte - 0xe0, 2, 0x80, 0x9f)
  else if byte < 0xf0 then some (byte - 0xe0, 2, 0x80, 0xbf)
  else if byte = 0xf0 then some (byte - 0xf0, 3, 0x90, 0xbf)
  else if byte < 0xf4 then some (byte - 0xf0, 3, 0x80, 0xbf)
  else if byte = 0xf4 then some (byte - 0xf0, 3, 0x80, 0x8f)
  else none

/-- The character whose code starts with some bits, and the bytes behind it; bytes that break off
are one mark together. -/
def takeFollowing (low high : Nat) : Nat → Nat → List Nat → Char × List Nat
  | 0, code, rest => (Char.ofNat code, rest)
  | _ + 1, _, [] => (replacement, [])
  | more + 1, code, byte :: rest =>
    if low ≤ byte && byte ≤ high then
      takeFollowing 0x80 0xbf more (code * 64 + byte % 64) rest
    else (replacement, byte :: rest)

/-- The bytes behind a character are no more than those behind its first one. -/
theorem takeFollowing_length (low high more code : Nat) (bytes : List Nat) :
    (takeFollowing low high more code bytes).2.length ≤ bytes.length := by
  induction more generalizing low high code bytes with
  | zero => simp [takeFollowing]
  | succ more ih =>
    cases bytes with
    | nil => simp [takeFollowing]
    | cons byte rest =>
      simp only [takeFollowing]
      split
      · exact Nat.le_succ_of_le (ih 0x80 0xbf _ rest)
      · exact Nat.le_refl _

/-- The characters of bytes, with a mark for those that are no UTF-8. -/
def ofAnyBytes : List Nat → List Char
  | [] => []
  | byte :: rest =>
    match leadByte? byte with
    | none => replacement :: ofAnyBytes rest
    | some (code, more, low, high) =>
      let taken := takeFollowing low high more code rest
      taken.1 :: ofAnyBytes taken.2
termination_by bytes => bytes.length
decreasing_by
  · exact Nat.lt_succ_self _
  · exact Nat.lt_succ_of_le (takeFollowing_length low high more code rest)

end SheetRecall.Text
