import SheetRecall.Text.WordTable
import SheetRecall.Text.UnprintableTable

/-!
# Classes of characters

The classes that the formats of this library refer to: blanks, line ends, decimal digits of
every script, word characters and printable characters.
-/

namespace SheetRecall.Text

/-! ## Blanks and line ends -/

/-- The blanks: ASCII white space, the four information separators, and the spaces and
separators of the other scripts. -/
def blankRanges : CodeRanges :=
  [(0x9, 0xd), (0x1c, 0x20), (0x85, 0x85), (0xa0, 0xa0), (0x1680, 0x1680), (0x2000, 0x200a),
   (0x2028, 0x2029), (0x202f, 0x202f), (0x205f, 0x205f), (0x3000, 0x3000)]

/-- The character is white space. -/
def isBlank (c : Char) : Bool := blankRanges.has c

/-- The character ends a line. -/
def isLineEnd (c : Char) : Bool :=
  CodeRanges.has [(0xa, 0xd), (0x1c, 0x1e), (0x85, 0x85), (0x2028, 0x2029)] c

/-- The character may stand beside a number: a blank that is no information separator. -/
def isNumberMargin (c : Char) : Bool :=
  isBlank c && !CodeRanges.has [(0x1c, 0x1f)] c

/-! ## Digits -/

/-- The zeros of the decimal digits; the other nine digits follow each of them. -/
def digitZeros : List Nat :=
  [0x30, 0x660, 0x6f0, 0x7c0, 0x966, 0x9e6, 0xa66, 0xae6, 0xb66, 0xbe6, 0xc66, 0xce6, 0xd66,
   0xde6, 0xe50, 0xed0, 0xf20, 0x1040, 0x1090, 0x17e0, 0x1810, 0x1946, 0x19d0, 0x1a80, 0x1a90,
   0x1b50, 0x1bb0, 0x1c40, 0x1c50, 0xa620, 0xa8d0, 0xa900, 0xa9d0, 0xa9f0, 0xaa50, 0xabf0,
   0xff10, 0x104a0, 0x10d30, 0x11066, 0x110f0, 0x11136, 0x111d0, 0x112f0, 0x11450, 0x114d0,
   0x11650, 0x116c0, 0x11730, 0x118e0, 0x11950, 0x11c50, 0x11d50, 0x11da0, 0x16a60, 0x16ac0,
   0x16b50, 0x1d7ce, 0x1d7d8, 0x1d7e2, 0x1d7ec, 0x1d7f6, 0x1e140, 0x1e2f0, 0x1e950, 0x1fbf0]

/-- The value of a decimal digit of any script. -/
def digitValue? (c : Char) : Option Nat :=
  (digitZeros.find? fun start => start ≤ c.toNat && c.toNat < start + 10).map (c.toNat - ·)

/-- The character is a decimal digit of some script. -/
def isDigit (c : Char) : Bool := (digitValue? c).isSome

/-- The value of an ASCII digit. -/
def asciiDigit? (c : Char) : Option Nat :=
  if '0' ≤ c && c ≤ '9' then some (c.toNat - 0x30) else none

/-! ## Words and print -/

/-- The character is a letter, a number or the low line. -/
def isWord (c : Char) : Bool := wordRanges.has c

/-- A quoted text shows the character as it is. -/
def isPrintable (c : Char) : Bool := !unprintableRanges.has c

end SheetRecall.Text
